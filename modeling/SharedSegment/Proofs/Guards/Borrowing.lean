import SharedSegment.Proofs.Custody.Calls

/-!
# Borrowed handles

A guard borrows the facade that it was made from, and a call borrows what it was made on. In a
session in which threads do whatever they like, and in which any of their calls may fail and any of
them may die, what is borrowed stays what it is: a facade under a guard is neither dropped nor
replaced, and the guards of a thread are changed by calls of that thread only
(`Session.IsLent.of_run`).
-/

namespace SharedSegment
open Function Scenario

/-- What a call ends with, whatever the answers are. -/
def Underway.EndsWith (c : Underway) (is : Effect → Prop) : Prop :=
  c.program.Ensures (.asking fun _ => True) (fun o _ => is o.effect) ()

/-- What a call was made on is there, and it changes nothing else. -/
inductive Underway.Fits (s : Session) (t : ThreadId) (c : Underway) : Prop where
  | opening {h raw size via} :
    c.act = .openHandle h raw size via →
    c.uses = some h →
    s.handles h = none →
    c.EndsWith (fun e => e = .none ∨ ∃ x, e = .setHandle h x) →
    Fits s t c
  | destroying {h g} :
    c.act = .onHandle h .destroy →
    c.uses = some h →
    s.handles h = some (.segment g) →
    c.EndsWith (fun e => ∃ g, e = .setHandle h (.segment g)) →
    Fits s t c
  | guarding {h g f} :
    c.act = .onHandle h (.guard g) →
    c.uses = some h →
    s.handles h = some (.facade f) →
    s.guards t g = none →
    c.EndsWith (fun e => e = .none ∨ f.data.isSome ∧ ∃ status, e = .setGuard ⟨t, g, h, status⟩) →
    Fits s t c
  | plain {h op} :
    c.act = .onHandle h op →
    (∀ g, op ≠ .guard g) →
    c.EndsWith (· = .none) →
    Fits s t c
  | guarded {g op x} :
    c.act = .onGuard g op →
    s.guards t g = some x →
    c.EndsWith (op.Brings x) →
    Fits s t c

/-- What a call brings about that fits what it was made on. -/
inductive Underway.Brings (s : Session) (t : ThreadId) (c : Underway) : Effect → Prop where
  | nothing :
    (∀ g, c.act ≠ .onGuard g .drop) →
    Brings s t c .none
  | handle {h x} :
    (∀ g, c.act ≠ .onGuard g .drop) →
    c.uses = some h →
    s.handles h = none ∨ (∃ g, s.handles h = some (.segment g)) ∧ (∃ g, x = .segment g) →
    Brings s t c (.setHandle h x)
  | guard {h g f status} :
    c.act = .onHandle h (.guard g) →
    s.handles h = some (.facade f) →
    s.guards t g = none →
    f.data.isSome →
    Brings s t c (.setGuard ⟨t, g, h, status⟩)
  | waited {g x status} :
    c.act = .onGuard g .wait →
    s.guards t g = some x →
    Brings s t c (.setGuard { x with status })
  | dropped {g x} :
    c.act = .onGuard g .drop →
    s.guards t g = some x →
    Brings s t c (.removeGuard x)

/-- What is borrowed is there: a guard is on a facade with a segment, a call fits what it was made
on, and a handle that is still to come is used by one call at most. -/
structure Session.IsLent (s : Session) : Prop where
  guards : ∀ t g x, s.guards t g = some x → x.owner = t ∧ x.name = g ∧
    ∃ f, s.handles x.handle = some (.facade f) ∧ f.data.isSome
  calls : ∀ t c, s.calls t = some c → c.Fits s t
  sole : ∀ t t' c c' h, s.handles h = none → s.calls t = some c → c.uses = some h →
    s.calls t' = some c' → c'.uses = some h → t = t'

section
variable {s s' : Session} {t : ThreadId} {c : Underway}

/-- A call goes on to fit as long as what it uses stays, or stays a segment. -/
lemma Underway.Fits.mono (fits : c.Fits s t) (guards : s'.guards t = s.guards t)
    (handles : ∀ h, c.uses = some h → s'.handles h = s.handles h ∨
      (∃ g, s.handles h = some (.segment g)) ∧ ∃ g, s'.handles h = some (.segment g)) :
    c.Fits s' t := by
  cases fits with
  | opening act uses free ends =>
    obtain same | ⟨⟨g, there⟩, -⟩ := handles _ uses
    · exact .opening act uses (same.trans free) ends
    · cases free.symm.trans there
  | destroying act uses there ends =>
    obtain same | ⟨-, g, there'⟩ := handles _ uses
    · exact .destroying act uses (same.trans there) ends
    · exact .destroying act uses there' ends
  | guarding act uses there free ends =>
    obtain same | ⟨⟨g, there'⟩, -⟩ := handles _ uses
    · exact .guarding act uses (same.trans there) ((congrFun guards _).trans free) ends
    · cases there.symm.trans there'
  | plain act other ends => exact .plain act other ends
  | guarded act eg ends => exact .guarded act ((congrFun guards _).trans eg) ends

lemma Underway.EndsWith.step {is : Effect → Prop} {h h' : Host} {m : Move} {p' : Program Outcome}
    (ends : c.EndsWith is) (st : c.program.Step t h m p' h') :
    { c with program := p' }.EndsWith is :=
  Program.ensures_asking_step ends st

/-- A call that comes back brings about what it may. -/
lemma Underway.Fits.brings {o : Outcome} (fits : c.Fits s t) (ep : c.program = .ret o) :
    c.Brings s t o.effect := by
  have ended {is : Effect → Prop} (ends : c.EndsWith is) : is o.effect := by
    unfold Underway.EndsWith at ends
    rw [ep] at ends
    exact ends
  cases fits with
  | opening act uses free ends =>
    have kind g : c.act ≠ .onGuard g .drop := by simp [act]
    obtain e | ⟨x, e⟩ := ended ends
    · exact e ▸ .nothing kind
    · exact e ▸ .handle kind uses (.inl free)
  | destroying act uses there ends =>
    have kind g : c.act ≠ .onGuard g .drop := by simp [act]
    obtain ⟨g, e⟩ := ended ends
    exact e ▸ .handle kind uses (.inr ⟨⟨_, there⟩, g, rfl⟩)
  | guarding act uses there free ends =>
    have kind g : c.act ≠ .onGuard g .drop := by simp [act]
    obtain e | ⟨segment, status, e⟩ := ended ends
    · exact e ▸ .nothing kind
    · exact e ▸ .guard act there free segment
  | plain act other ends =>
    have kind g : c.act ≠ .onGuard g .drop := by simp [act]
    exact ended ends ▸ .nothing kind
  | @guarded g op x act eg ends =>
    have ends := ended ends
    cases op with
    | wait =>
      obtain ⟨status, e⟩ := ends
      exact e ▸ .waited act eg
    | drop =>
      have e : o.effect = .removeGuard x := ends
      exact e ▸ .dropped act eg
    | status | read | write =>
      have kind g : c.act ≠ .onGuard g .drop := by simp [act]
      have e : o.effect = .none := ends
      exact e ▸ .nothing kind

lemma Underway.Fits.step {h h' : Host} {m : Move} {p' : Program Outcome} (fits : c.Fits s t)
    (st : c.program.Step t h m p' h') : { c with program := p' }.Fits s t := by
  cases fits with
  | opening act uses free ends => exact .opening act uses free (ends.step st)
  | destroying act uses there ends => exact .destroying act uses there (ends.step st)
  | guarding act uses there free ends => exact .guarding act uses there free (ends.step st)
  | plain act other ends => exact .plain act other (ends.step st)
  | guarded act eg ends => exact .guarded act eg (ends.step st)

end

namespace Program

variable {α : Type}

/-- A call that only gives the result of a program changes nothing. -/
lemma ends_giving (p : Program α) (result : α → Result) :
    (giving p result).Ensures (.asking fun _ => True) (fun o _ => o.effect = .none) () := by
  refine Ensures.bind p.asks_anything ?_
  intro a _ _
  exact rfl

lemma ends_opening {h : String} (p : Program (Except SegmentError α)) (handle : α → Handle) :
    (opening h p handle).Ensures (.asking fun _ => True)
      (fun o _ => o.effect = .none ∨ ∃ x, o.effect = .setHandle h x) () := by
  refine Ensures.bind p.asks_anything ?_
  intro r _ _
  cases r with
  | ok a => exact .inr ⟨handle a, rfl⟩
  | error e => exact .inl rfl

lemma ends_openCall (toggle : Option String) (h raw : String) (size : UInt32) (via : Via) :
    (openCall toggle h raw size via).Ensures (.asking fun _ => True)
      (fun o _ => o.effect = .none ∨ ∃ x, o.effect = .setHandle h x) () := by
  cases via with
  | facade c => exact ends_opening _ _
  | attempt c => exact ends_opening _ _
  | create c => exact ends_opening _ _
  | attach c => exact ends_opening _ _

/-- There is a guard only of a facade with a segment. -/
lemma ends_guardCall (t : ThreadId) (h g : String) (f : Facade) :
    (guardCall t h g f).Ensures (.asking fun _ => True)
      (fun o _ => o.effect = .none ∨
        f.data.isSome ∧ ∃ status, o.effect = .setGuard ⟨t, g, h, status⟩) () := by
  cases ed : f.data with
  | some m =>
    refine Ensures.bind f.guard.asks_anything ?_
    intro status _ _
    cases status with
    | none => exact .inl rfl
    | some status => exact .inr ⟨rfl, status, rfl⟩
  | none =>
    have refused : f.lock = .ret .unavailable := by
      unfold Facade.lock Facade.onSegment
      cases es : f.segment with
      | none => rfl
      | some g =>
        rw [Facade.data, es] at ed
        change g.mapping = none at ed
        simp only [Segment.lock, ed]
        rfl
    rw [guardCall, Facade.guard, refused]
    exact .inl rfl

end Program

namespace Underway

variable {s : Session} {t : ThreadId} {h : String} {x : Handle} {p : Program Outcome}

lemma fits_onHandle {op : Operation} (ex : s.handles h = some x)
    (free : ∀ g, op = .guard g → s.guards t g = none) (keeps : op ≠ .drop)
    (ep : handleCall? t h x op = some p) :
    (Underway.mk (.onHandle h op) (some h) (some x) p).Fits s t := by
  cases op with
  | destroy =>
    cases x with
    | facade f => cases ep
    | segment g =>
      cases ep
      refine .destroying rfl rfl ex ?_
      refine Program.Ensures.bind g.destroy.asks_anything ?_
      intro g' _ _
      exact ⟨g', rfl⟩
  | guard g =>
    cases x with
    | segment g => cases ep
    | facade f =>
      cases ep
      exact .guarding rfl rfl ex (free g rfl) (Program.ends_guardCall t h g f)
  | drop => exact absurd rfl keeps
  | _ =>
    have ends := (plain_handleUse ep keeps nofun).asking_mono fun _ _ => trivial
    exact .plain rfl nofun ends

lemma fits_drop (ep : handleCall? t h x .drop = some p) :
    (Underway.mk (.onHandle h .drop) none (some x) p).Fits s t := by
  have eq : p = giving x.drop fun _ => .ok := by
    cases x <;> exact (Option.some.inj ep).symm
  subst eq
  exact .plain rfl nofun (Program.ends_giving x.drop fun _ => .ok)

lemma fits_onGuard {g : String} {y : Guard} {f : Facade} {op : GuardOperation}
    (eg : s.guards t g = some y) :
    (Underway.mk (.onGuard g op) (some y.handle) (some (.facade f))
      (guardOperationCall y f op)).Fits s t :=
  .guarded rfl eg ((plain_guardUse y f op).asking_mono fun _ _ => trivial)

end Underway

namespace Session.IsLent

variable {s s' : Session} {t t' : ThreadId} {c : Underway} {d : Deed} {g h : String} {x : Guard}
  {f : Facade}

/-- A call begins, and a handle that is still to come is used by nobody else. -/
lemma begin (lent : s.IsLent) (free : s.calls t = none) (fits : c.Fits s t)
    (alone : ∀ h, c.uses = some h → s.handles h = none → ¬s.IsInUse h) : (s.begin t c).IsLent := by
  refine ⟨lent.guards, ?_, ?_⟩
  · intro t' c' ec
    obtain ⟨rfl, rfl⟩ | ⟨-, ec⟩ := begin_calls_inv ec
    · exact fits.mono rfl fun _ _ => .inl rfl
    · exact (lent.calls t' c' ec).mono rfl fun _ _ => .inl rfl
  · intro t₁ t₂ c₁ c₂ h unnamed ec₁ uses₁ ec₂ uses₂
    obtain ⟨rfl, rfl⟩ | ⟨-, there₁⟩ := begin_calls_inv ec₁
    · obtain ⟨rfl, -⟩ | ⟨-, there₂⟩ := begin_calls_inv ec₂
      · rfl
      · exact absurd (.inr ⟨t₂, c₂, there₂, uses₂⟩) (alone h uses₁ unnamed)
    · obtain ⟨rfl, rfl⟩ | ⟨-, there₂⟩ := begin_calls_inv ec₂
      · exact absurd (.inr ⟨t₁, c₁, there₁, uses₁⟩) (alone h uses₂ unnamed)
      · exact lent.sole t₁ t₂ c₁ c₂ h unnamed there₁ uses₁ there₂ uses₂

/-- A handle is changed on which there is no guard, and on which calls stand it. -/
lemma change (lent : s.IsLent) {y : Option Handle}
    (unguarded : ∀ t g x, s.guards t g = some x → x.handle ≠ h)
    (stand : ∀ t c, s.calls t = some c → c.uses = some h →
      (∃ g, s.handles h = some (.segment g)) ∧ ∃ g, y = some (.segment g)) :
    IsLent { s with handles := update s.handles h y } := by
  refine ⟨?_, ?_, ?_⟩
  · intro t g x eg
    obtain ⟨owner, name, f, ef, segment⟩ := lent.guards t g x eg
    refine ⟨owner, name, f, ?_, segment⟩
    exact (update_of_ne (unguarded t g x eg) _ _).trans ef
  · intro t c ec
    refine (lent.calls t c ec).mono rfl ?_
    intro h' uses
    by_cases eh : h' = h
    · subst eh
      obtain ⟨there, g, ey⟩ := stand t c ec uses
      exact .inr ⟨there, g, (update_self ..).trans ey⟩
    · exact .inl (update_of_ne eh _ _)
  · intro t t' c c' h' unnamed ec uses ec' uses'
    by_cases eh : h' = h
    · subst eh
      obtain ⟨-, g, ey⟩ := stand t c ec uses
      change update s.handles h' y h' = none at unnamed
      rw [update_self, ey] at unnamed
      cases unnamed
    · change update s.handles h y h' = none at unnamed
      rw [update_of_ne eh] at unnamed
      exact lent.sole t t' c c' h' unnamed ec uses ec' uses'

lemma move {m : Move} {p' : Program Outcome} {h' : Host} (lent : s.IsLent)
    (ec : s.calls t = some c) (st : c.program.Step t s.host m p' h') :
    (s.move t c p' h').IsLent := by
  refine ⟨lent.guards, ?_, ?_⟩
  · intro t' c' ec'
    obtain ⟨rfl, rfl⟩ | ⟨-, ec'⟩ := move_calls_inv ec'
    · exact ((lent.calls t' c ec).step st).mono rfl fun _ _ => .inl rfl
    · exact (lent.calls t' c' ec').mono rfl fun _ _ => .inl rfl
  · -- A call uses in its course what it has used from the beginning.
    have before (t' : ThreadId) (c' : Underway) (h : String)
        (ec' : (s.move t c p' h').calls t' = some c') (uses : c'.uses = some h) :
        ∃ c₀, s.calls t' = some c₀ ∧ c₀.uses = some h := by
      obtain ⟨rfl, rfl⟩ | ⟨-, ec'⟩ := move_calls_inv ec'
      · exact ⟨c, ec, uses⟩
      · exact ⟨c', ec', uses⟩
    intro t₁ t₂ c₁ c₂ h unnamed ec₁ uses₁ ec₂ uses₂
    obtain ⟨c₁', ec₁', uses₁'⟩ := before t₁ c₁ h ec₁ uses₁
    obtain ⟨c₂', ec₂', uses₂'⟩ := before t₂ c₂ h ec₂ uses₂
    exact lent.sole t₁ t₂ c₁' c₂' h unnamed ec₁' uses₁' ec₂' uses₂'

/-- A call is over, but for its effect. -/
lemma leave (lent : s.IsLent) (t : ThreadId) :
    IsLent { s with calls := update s.calls t none } := by
  have before (t' : ThreadId) (c' : Underway) (ec : update s.calls t none t' = some c') :
      s.calls t' = some c' := by
    obtain ⟨-, e⟩ | ⟨-, ec⟩ := update_inv ec
    · cases e
    · exact ec
  refine ⟨lent.guards, ?_, ?_⟩
  · intro t' c' ec
    exact (lent.calls t' c' (before t' c' ec)).mono rfl fun _ _ => .inl rfl
  · intro t₁ t₂ c₁ c₂ h unnamed ec₁ uses₁ ec₂ uses₂
    exact lent.sole t₁ t₂ c₁ c₂ h unnamed (before t₁ c₁ ec₁) uses₁ (before t₂ c₂ ec₂) uses₂

/-- A thread without a call changes one of its guards. -/
lemma regard (lent : s.IsLent) (free : s.calls t = none) {y : Option Guard}
    (ok : ∀ x, y = some x → x.owner = t ∧ x.name = g ∧
      ∃ f, s.handles x.handle = some (.facade f) ∧ f.data.isSome) :
    IsLent { s with guards := update s.guards t (update (s.guards t) g y) } := by
  refine ⟨?_, ?_, lent.sole⟩
  · intro t' g' x eg
    obtain ⟨rfl, rfl, new⟩ | ⟨-, eg⟩ := guards_update_inv eg
    · exact ok x new
    · exact lent.guards t' g' x eg
  · intro t' c ec
    have ne : t' ≠ t := by
      rintro rfl
      cases free.symm.trans ec
    exact (lent.calls t' c ec).mono (update_of_ne ne _ _) fun _ _ => .inl rfl

/-- What a call replaces is no facade. -/
lemma no_facade {y : Handle} (replaced : s.handles h = none ∨
    (∃ g, s.handles h = some (.segment g)) ∧ ∃ g, y = .segment g) :
    s.handles h ≠ some (.facade f) := by
  intro ef
  obtain free | ⟨⟨g, there⟩, -⟩ := replaced
  · cases free.symm.trans ef
  · cases there.symm.trans ef

lemma conclude {o : Outcome} (lent : s.IsLent) (ec : s.calls t = some c)
    (ep : c.program = .ret o) : (s.conclude t o).IsLent := by
  have left := lent.leave t
  have rests : update s.calls t none t = none := update_self ..
  have brings := (lent.calls t c ec).brings ep
  unfold Session.conclude
  generalize o.effect = e at brings
  cases brings with
  | nothing => exact left
  | @handle h y kind uses replaced =>
    refine left.change ?_ ?_
    · rintro t' g x eg rfl
      obtain ⟨-, -, f, ef, -⟩ := lent.guards t' g x eg
      exact no_facade replaced ef
    · intro t' c' ec' uses'
      obtain ⟨-, e⟩ | ⟨et, ec'⟩ := update_inv ec'
      · cases e
      · obtain free | ⟨there, g, rfl⟩ := replaced
        · exact absurd (lent.sole t' t c' c h free ec' uses' ec uses) et
        · exact ⟨there, g, rfl⟩
  | guard act there free segment =>
    refine left.regard rests ?_
    rintro _ ⟨⟩
    exact ⟨rfl, rfl, _, there, segment⟩
  | waited act eg =>
    obtain ⟨rfl, rfl, bound⟩ := lent.guards _ _ _ eg
    refine left.regard rests ?_
    rintro _ ⟨⟩
    exact ⟨rfl, rfl, bound⟩
  | dropped act eg =>
    obtain ⟨rfl, rfl, -⟩ := lent.guards _ _ _ eg
    exact left.regard rests nofun

/-- A step leaves what is borrowed as it is. -/
theorem step (lent : s.IsLent) (st : s.Step d s') : s'.IsLent := by
  cases st with
  | @openHandle t toggle h raw size via idle unnamed unused =>
    refine lent.begin idle.calls (.opening rfl rfl unnamed (Program.ends_openCall ..)) ?_
    rintro _ ⟨⟩ _
    exact unused
  | @onHandle t h op x p idle ex excl taken nodrop ep =>
    refine lent.begin idle.calls (Underway.fits_onHandle ex taken nodrop ep) ?_
    rintro _ ⟨⟩ unnamed
    cases ex.symm.trans unnamed
  | @drop t h x p idle ex unused ep =>
    have taken : IsLent { s with handles := update s.handles h none } := by
      refine lent.change ?_ ?_
      · rintro t' g x eg rfl
        exact unused (.inl ⟨t', g, x, eg, rfl⟩)
      · intro t' c ec uses
        exact absurd (.inr ⟨t', c, ec, uses⟩) unused
    exact taken.begin idle.calls (Underway.fits_drop ep) nofun
  | @onGuard t g x f op idle eg ef =>
    refine lent.begin idle.calls (Underway.fits_onGuard eg) ?_
    rintro _ ⟨⟩ unnamed
    cases ef.symm.trans unnamed
  | move ec alive st => exact lent.move ec st
  | finish ec alive ep => exact lent.conclude ec ep
  | die alive =>
    refine ⟨lent.guards, ?_, lent.sole⟩
    intro t' c ec
    exact (lent.calls t' c ec).mono rfl fun _ _ => .inl rfl

lemma init (h : Host) : (Session.ofHost h).IsLent := by
  refine ⟨?_, ?_, ?_⟩
  · intro t g x eg
    cases eg
  · intro t c ec
    cases ec
  · intro t t' c c' h _ ec
    cases ec

theorem of_run {h : Host} {past : List Deed} (run : Run Session.Step (.ofHost h) past s) :
    s.IsLent := by
  induction run with
  | nil => exact init h
  | cons run st ih => exact ih.step st

/-- A facade stays until it is dropped. -/
lemma facade_stays (lent : s.IsLent) (st : s.Step d s') (ef : s.handles h = some (.facade f))
    (kept : ∀ t, d ≠ .began t (.onHandle h .drop)) : s'.handles h = some (.facade f) := by
  cases st with
  | openHandle | onHandle | onGuard | move | die => exact ef
  | @drop t h' =>
    have ne : h ≠ h' := by
      rintro rfl
      exact kept t rfl
    exact (update_of_ne ne _ _).trans ef
  | @finish t c o ec alive ep =>
    have brings := (lent.calls t c ec).brings ep
    cases ee : o.effect with
    | none | setGuard | removeGuard =>
      rw [conclude_handles (by rw [ee]; rfl)]
      exact ef
    | setHandle h' y =>
      rw [ee] at brings
      cases brings with
      | handle kind uses replaced =>
        have ne : h ≠ h' := by
          rintro rfl
          exact no_facade replaced ef
        rw [conclude_setHandle ee, update_of_ne ne]
        exact ef

/-- A facade that is in use stays. -/
lemma facade_step (lent : s.IsLent) (st : s.Step d s') (ef : s.handles h = some (.facade f))
    (used : s.IsInUse h) : s'.handles h = some (.facade f) := by
  refine lent.facade_stays st ef ?_
  rintro t rfl
  cases st with
  | onHandle _ _ _ _ other => exact other rfl
  | drop _ _ unused => exact unused used

/-- A call for a guard is on a facade, and does not find a guard of its name. -/
lemma guarding_inv (lent : s.IsLent) (ec : s.calls t = some c)
    (act : c.act = .onHandle h (.guard g)) :
    s.guards t g = none ∧ c.uses = some h ∧ ∃ f, s.handles h = some (.facade f) := by
  cases lent.calls t c ec with
  | opening act' | destroying act' | guarded act' => cases act.symm.trans act'
  | plain act' other =>
    cases act.symm.trans act'
    exact absurd rfl (other g)
  | guarding act' uses there free ends =>
    cases act.symm.trans act'
    exact ⟨free, uses, _, there⟩

/-- A guard of a thread that has come back was there before, or was just made. -/
lemma guards_conclude {o : Outcome} {x' : Guard} (lent : s.IsLent) (ec : s.calls t = some c)
    (ep : c.program = .ret o) (eg' : (s.conclude t o).guards t g = some x') :
    (∃ x, s.guards t g = some x ∧ x.handle = x'.handle ∧ c.act ≠ .onGuard g .drop ∧
      ∀ h, c.act ≠ .onHandle h (.guard g)) ∨
    c.act = .onHandle x'.handle (.guard g) ∧
      ∃ status, o.effect = .setGuard ⟨t, g, x'.handle, status⟩ := by
  have old (kind : c.act ≠ .onGuard g .drop) (same : s.guards t g = some x') :
      ∃ x, s.guards t g = some x ∧ x.handle = x'.handle ∧ c.act ≠ .onGuard g .drop ∧
        ∀ h, c.act ≠ .onHandle h (.guard g) := by
    refine ⟨x', same, rfl, kind, ?_⟩
    intro h act
    cases (lent.guarding_inv ec act).1.symm.trans same
  have brings := (lent.calls t c ec).brings ep
  unfold Session.conclude at eg'
  generalize o.effect = e at brings eg' ⊢
  cases brings with
  | nothing kind | handle kind => exact .inl (old (kind g) eg')
  | @guard h g₀ f status act =>
    obtain ⟨-, rfl, ⟨⟩⟩ | ⟨-, eg'⟩ := guards_update_inv eg'
    · exact .inr ⟨act, status, rfl⟩
    · exact .inl (old (by simp [act]) eg')
  | @waited g₀ x status act there =>
    obtain ⟨rfl, rfl, -⟩ := lent.guards _ _ _ there
    obtain ⟨-, rfl, ⟨⟩⟩ | ⟨-, eg'⟩ := guards_update_inv eg'
    · exact .inl ⟨x, there, rfl, by simp [act], by simp [act]⟩
    · exact .inl (old (by simp [act]) eg')
  | @dropped g₀ x act there =>
    obtain ⟨rfl, rfl, -⟩ := lent.guards _ _ _ there
    obtain ⟨-, -, ⟨⟩⟩ | ⟨other, eg'⟩ := guards_update_inv eg'
    refine .inl (old ?_ eg')
    rw [act]
    rintro ⟨⟩
    exact other rfl rfl

/-- A thread is left alone by the deeds of others. -/
lemma others_step (lent : s.IsLent) (st : s.Step d s') (ne : t ≠ d.thread) :
    s'.calls t = s.calls t ∧ s'.guards t = s.guards t ∧ s'.dead t = s.dead t := by
  cases st with
  | openHandle | onHandle | drop | onGuard | move => exact ⟨update_of_ne ne _ _, rfl, rfl⟩
  | die => exact ⟨rfl, rfl, update_of_ne ne _ _⟩
  | @finish t' c o ec alive ep =>
    refine ⟨?_, ?_, ?_⟩
    · rw [conclude_calls]
      exact update_of_ne ne _ _
    · have brings := (lent.calls t' c ec).brings ep
      unfold Session.conclude
      generalize o.effect = e at brings
      cases brings with
      | nothing | handle => rfl
      | guard => exact update_of_ne ne _ _
      | waited act eg | dropped act eg =>
        obtain ⟨rfl, -⟩ := lent.guards _ _ _ eg
        exact update_of_ne ne _ _
    · rw [conclude_dead]

end Session.IsLent
end SharedSegment
