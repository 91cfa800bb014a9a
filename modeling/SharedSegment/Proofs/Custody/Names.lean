import SharedSegment.Proofs.Custody.Calls
import SharedSegment.Proofs.Custody.Tables

/-!
# Names

Two kinds of calls may take a name away: those that create a segment under it, and those that tear
the handle of a creator down (`Underway.IsRival`). All others never ask for that. So as long as no
rival is under way, a name that is bound stays bound to the same object
(`Session.IsHeedful.bound_run`), whatever else happens in a session.
-/

namespace SharedSegment
open Function Scenario Program

/-- A name is told from others by what the store files it under. -/
theorem Name.file_injective : Injective Name.file := by
  rintro ⟨stem, _⟩ ⟨stem', _⟩ same
  obtain rfl : stem = stem' := String.ofList_injective same
  rfl

namespace Host

variable {h h' : Host} {t : ThreadId} {n : Name} {k : ObjectId} {m : MappingId}

/-- Whether a name is bound to an object. -/
def IsBound (h : Host) (n : Name) (k : ObjectId) : Prop :=
  h.store.place n = .file (some (.object k))

lemma IsBound.of_get? {s : Store} (bound : h.IsBound n k)
    (stays : s.get? n.file = h.store.get? n.file) : s.place n = .file (some (.object k)) := by
  obtain ⟨here, -, leads⟩ := Store.place_eq_file bound
  have there := stays.trans here
  have placed := leads s (by simp [there])
  rwa [there] at placed

/-- What the answer to a request does to the names: one is made, one is taken away, or all of them
stay as they are. -/
inductive Rebinds (h : Host) : (r : Request) → r.Answer → Host → Prop where
  | made {n mode} :
    h.store.place n = .file none →
    Rebinds h (.openNew n mode) (.ok h.files.length)
      (h.grown (h.store.insert n.file (.object h.objects.length)) [.fresh mode]
        [some h.objects.length] [])
  | refused {n mode e} :
    Rebinds h (.openNew n mode) (.error e) h
  | taken {n x} :
    h.store.place n = .file (some x) →
    Rebinds h (.unlink n) (.ok ()) { h with store := h.store.erase n.file }
  | kept {r a h'} :
    (∀ n mode, r ≠ .openNew n mode) →
    (∀ n x, r = .unlink n → h.store.place n ≠ .file (some x)) →
    h'.store = h.store →
    Rebinds h r a h'

theorem rebinds_step {r : Request} {a : r.Answer} (e : h.step t r = .done a h') :
    h.Rebinds r a h' := by
  have plain (other : r.isTabled = false) : h.Rebinds r a h' := by
    have same := sameTables_step (h := h) (t := t) other
    rw [e] at same
    refine .kept ?_ ?_ same.1
    · rintro n mode rfl
      cases other
    · rintro n x rfl
      cases other
  cases r with
  | openNew n mode =>
    obtain ⟨err, refused⟩ | free := h.step_openNew_cases t n mode
    · cases refused.symm.trans e
      exact .refused
    · cases (step_openNew free).symm.trans e
      exact .made free
  | unlink n =>
    cases ep : h.store.place n with
    | file bound =>
      cases bound with
      | some x =>
        cases (step_unlink ep).symm.trans e
        exact .taken ep
      | none =>
        simp only [step, unlink, ep] at e
        cases e
        exact .kept (by rintro _ _ ⟨⟩) (by rintro _ x ⟨⟩; simp [ep]) rfl
    | nested | directory =>
      simp only [step, unlink, ep] at e
      cases e
      exact .kept (by rintro _ _ ⟨⟩) (by rintro _ x ⟨⟩; simp [ep]) rfl
  | map f len =>
    cases e
    refine .kept (by rintro _ _ ⟨⟩) (by rintro _ _ ⟨⟩) ?_
    obtain ⟨-, eq⟩ | ⟨k', o, -, -, eq⟩ := h.onFile_cases f fun id _ =>
      (h.mappings.length, { h with mappings := h.mappings ++ [some ⟨id, len⟩] })
    · exact congrArg (Host.store ∘ Prod.snd) eq
    · exact congrArg (Host.store ∘ Prod.snd) eq
  | openExisting n =>
    cases e
    refine .kept (by rintro _ _ ⟨⟩) (by rintro _ _ ⟨⟩) ?_
    obtain ⟨err, -, same⟩ | ⟨k', o, -, -, -, same⟩ := ledger_openExisting (h := h) n
    · exact congrArg Ledger.store same
    · exact congrArg Ledger.store same
  | close | unmap =>
    cases e
    exact .kept (by rintro _ _ ⟨⟩) (by rintro _ _ ⟨⟩) rfl
  | _ => exact plain rfl

/-- A name that is bound stays bound unless it is taken away. -/
lemma IsBound.step {r : Request} {a : r.Answer} (bound : h.IsBound n k)
    (e : h.step t r = .done a h') (spared : r ≠ .unlink n) : h'.IsBound n k := by
  cases rebinds_step e with
  | @made n' mode free =>
    have ne : n.file ≠ n'.file := by
      intro same
      obtain rfl := Name.file_injective same
      cases bound.symm.trans free
    exact bound.of_get? (Store.get?_insert_of_ne ne)
  | refused => exact bound
  | @taken n' x there =>
    have ne : n.file ≠ n'.file := by
      intro same
      obtain rfl := Name.file_injective same
      exact spared rfl
    exact bound.of_get? (Store.get?_erase_of_ne ne)
  | kept _ _ same =>
    rw [IsBound, same]
    exact bound

lemma IsBound.wait {r : Request} (bound : h.IsBound n k) (e : h.step t r = .wait h') :
    h'.IsBound n k := by
  have same : h'.store = h.store := congrArg Ledger.store (ledger_wait e)
  rw [IsBound, same]
  exact bound

end Host

/-- A program never takes a name away. -/
abbrev Program.Heeds {α : Type} (p : Program α) (n : Name) : Prop :=
  p.Asks fun r => r ≠ .unlink n

/-- Whether a handle is one of a creator, on a segment of some name. -/
def Scenario.Handle.Made (x : Handle) (n : Name) : Prop :=
  ∃ g, x.segment? = some g ∧ g.role = .creator ∧ g.name = n

/-- Whether a call may take a name away: it creates a segment under the name, or tears down the
handle of one that did. -/
def Underway.IsRival (c : Underway) (n : Name) : Prop :=
  match c.act with
  | .openHandle _ raw size via => Name.ofRaw raw = .ok n ∧ via.creates size
  | .onHandle _ .drop | .onHandle _ .destroy => ∃ x, c.subject = some x ∧ x.Made n
  | _ => False

section
variable {n : Name}

lemma Program.IsPlain.heeds {α : Type} {p : Program α} (plain : p.IsPlain) : p.Heeds n := by
  refine plain.mono ?_
  rintro _ plain rfl
  cases plain

/-- Tearing a handle down takes no name away but the creator's own. -/
lemma Segment.heeds_destroy (s : Segment) (spared : s.role = .creator → s.name ≠ n) :
    s.destroy.Heeds n := by
  refine s.asks_destroy.mono ?_
  rintro _ tears rfl
  obtain ⟨role, -, named⟩ := tears
  exact spared role named

lemma heeds_openCall {toggle : Option String} {h raw : String} {size : UInt32} {via : Via}
    (spared : ¬(Name.ofRaw raw = .ok n ∧ via.creates size)) :
    (openCall toggle h raw size via).Heeds n := by
  have made (creates : via.creates size) (n' : Name) (c : Config) (en : Name.ofRaw raw = .ok n') :
      (Segment.create n' size c).Heeds n := by
    refine (Segment.asks_create n' c size).mono ?_
    rintro _ named rfl
    obtain rfl : n = n' := named
    exact spared ⟨en, creates⟩
  have found (n' : Name) (c : Config) : (Segment.attach n' c).Heeds n := by
    refine (Segment.asks_attach n' c).mono ?_
    rintro _ finding rfl
    cases finding
  exact (Ensures.openCall (fun _ _ => True) toggle (fun _ _ here => here)
    (fun creates n' c en _ => made creates n' c en) (fun _ n' c _ => found n' c) trivial).mono
      fun _ _ _ => trivial

lemma heeds_handleCall {t : ThreadId} {h : String} {x : Handle} {op : Operation}
    {p : Program Outcome} (ep : handleCall? t h x op = some p)
    (spared : op = .drop ∨ op = .destroy → ¬x.Made n) : p.Heeds n := by
  have torn (teardown : op = .drop ∨ op = .destroy) (g : Segment) (eg : x.segment? = some g) :
      g.destroy.Heeds n :=
    g.heeds_destroy fun role named => spared teardown ⟨g, eg, role, named⟩
  by_cases drops : op = .drop
  · subst drops
    exact (Ensures.dropCall (torn (.inl rfl)) (fun _ => trivial) ep).mono fun _ _ _ => trivial
  by_cases destroys : op = .destroy
  · subst destroys
    have torn (g : Segment) (eg : x = .segment g) : g.destroy.Heeds n :=
      torn (.inr rfl) g (by rw [eg]; rfl)
    exact (Ensures.destroyCall torn ep).mono fun _ _ _ => trivial
  have plain : p.IsPlain := (plain_handleUse ep drops destroys).mono fun _ _ _ => trivial
  exact plain.heeds

lemma heeds_guardUse (g : Guard) (f : Facade) (op : GuardOperation) :
    (guardOperationCall g f op).Heeds n := by
  have plain : (guardOperationCall g f op).IsPlain :=
    (plain_guardUse g f op).mono fun _ _ _ => trivial
  exact plain.heeds

end

/-- No thread is in a call that may take a name away. -/
def Session.IsPeaceful (s : Session) (n : Name) : Prop :=
  ∀ t c, s.calls t = some c → s.dead t = false → ¬c.IsRival n

/-- A step that is made while no call is under way that may take a name away. -/
def Session.PeacefulStep (n : Name) (s : Session) (d : Deed) (s' : Session) : Prop :=
  s.Step d s' ∧ s.IsPeaceful n

/-- Whoever is no rival for a name leaves it alone. -/
def Session.IsHeedful (s : Session) : Prop :=
  ∀ t c, s.calls t = some c → s.dead t = false → ∀ n, ¬c.IsRival n → c.program.Heeds n

namespace Session.IsHeedful

variable {s s' : Session} {t : ThreadId} {c : Underway} {d : Deed} {n : Name} {k : ObjectId}

lemma begin {handles : String → Option Handle} (heedful : s.IsHeedful)
    (mine : ∀ n, ¬c.IsRival n → c.program.Heeds n) :
    ({ s with handles }.begin t c).IsHeedful := by
  intro t' c' ec alive
  obtain ⟨-, rfl⟩ | ⟨-, ec⟩ := begin_calls_inv ec
  · exact mine
  · exact heedful t' c' ec alive

theorem step (heedful : s.IsHeedful) (st : s.Step d s') : s'.IsHeedful := by
  cases st with
  | openHandle => exact heedful.begin fun n spared => heeds_openCall spared
  | @onHandle t h op x p idle ex excl taken nodrop ep =>
    refine heedful.begin fun n spared => heeds_handleCall ep ?_
    rintro (rfl | rfl) made
    · exact nodrop rfl
    · exact spared ⟨x, rfl, made⟩
  | @drop t h x p idle ex unused ep =>
    refine heedful.begin fun n spared => heeds_handleCall ep ?_
    intro _ made
    exact spared ⟨x, rfl, made⟩
  | onGuard => exact heedful.begin fun n _ => heeds_guardUse _ _ _
  | @move t c m p' h' ec alive st =>
    intro t' c' ec' alive'
    obtain ⟨rfl, rfl⟩ | ⟨-, ec'⟩ := move_calls_inv ec'
    · exact fun n spared => ensures_asking_step (heedful t' c ec alive n spared) st
    · exact heedful t' c' ec' alive'
  | @finish t c o ec alive ep =>
    intro t' c' ec' alive'
    rw [conclude_dead] at alive'
    exact heedful t' c' (conclude_calls_inv ec').2 alive'
  | @die t alive =>
    intro t' c ec alive'
    exact heedful t' c ec (bury_dead_inv alive').2

theorem of_run {h : Host} {past : List Deed} (run : Run Session.Step (.ofHost h) past s) :
    s.IsHeedful := by
  induction run with
  | nil =>
    intro t c ec
    cases ec
  | cons run st ih => exact ih.step st

/-- While nobody may take it away, a name stays bound. -/
lemma bound_step (heedful : s.IsHeedful) (st : s.PeacefulStep n d s') (bound : s.host.IsBound n k) :
    s'.host.IsBound n k := by
  obtain ⟨st, peaceful⟩ := st
  cases st.touches with
  | nothing same none =>
    rw [Host.IsBound, same]
    exact bound
  | @answered t c r a next ec alive ep eh =>
    have heeds := heedful t c ec alive n (peaceful t c ec alive)
    rw [ep] at heeds
    exact bound.step eh heeds.1
  | waited eh => exact bound.wait eh
  | died same =>
    rw [Host.IsBound, same]
    exact bound

theorem bound_run {past : List Deed} (heedful : s.IsHeedful) (bound : s.host.IsBound n k)
    (run : Run (Session.PeacefulStep n) s past s') : s'.host.IsBound n k := by
  suffices both : s'.IsHeedful ∧ s'.host.IsBound n k from both.2
  induction run with
  | nil => exact ⟨heedful, bound⟩
  | cons run st ih => exact ⟨ih.1.step st.1, ih.1.bound_step st ih.2⟩

end Session.IsHeedful
end SharedSegment
