import SharedSegment.Proofs.Stakes.Lives

/-!
# Newcomers

Whoever opens a handle comes to an object that it makes, or to one that is bound to the name that it
asks for (`Session.IsAimed`). An object that has lost its names never gets a name again
(`Host.HasRetired.step`), so nobody comes to it any more, and whoever makes an object under a name
retires all others from that name (`Session.Arrives`).
-/

namespace SharedSegment
open Function Scenario Program

/-- Every object that is bound is there, and no two names are bound to it. -/
structure Host.IsNamedOnce (h : Host) : Prop where
  there : ∀ n k, h.IsBound n k → k < h.objects.length
  once : ∀ n n' k, h.IsBound n k → h.IsBound n' k → n = n'

/-- Some objects are there, and none of them is bound to any of some names. -/
structure Host.HasRetired (A : Name → Prop) (K : ObjectId → Prop) (h : Host) : Prop where
  there : ∀ k, K k → k < h.objects.length
  unbound : ∀ n k, A n → K k → ¬h.IsBound n k

/-- The name under which a request opens an object, and whether it makes the object. -/
def Request.opens? : Request → Option (Name × Bool)
  | .openNew n _ => some (n, true)
  | .openExisting n => some (n, false)
  | _ => none

/-- The name under which an act opens an object, and whether it makes the object. -/
def Scenario.Act.opens? : Act → Option (Name × Bool)
  | .openHandle _ raw size via => (Name.ofRaw raw).toOption.map (·, via.creates size)
  | _ => none

/-- Whether a stake is in an object. -/
def Stake.isIn (c : Stake) (k : ObjectId) : Bool :=
  c.object? == some k

section
variable {h h' : Host} {t : ThreadId} {n : Name} {k : ObjectId} {r : Request} {a : r.Answer}

/-- What a name is bound to after an answer it was bound to before, or the object was just made
under the name. -/
lemma Host.IsBound.answer_inv (bound : h'.IsBound n k) (e : h.step t r = .done a h') :
    h.IsBound n k ∨
      r.opens? = some (n, true) ∧ k = h.objects.length ∧ k < h'.objects.length := by
  cases Host.rebinds_step e with
  | @made n' mode free =>
    by_cases same : n = n'
    · subst same
      have placed : _ = Store.Place.file (some (.object h.objects.length)) :=
        Store.place_insert free
      cases bound.symm.trans placed
      exact .inr ⟨rfl, rfl, by simp [Host.grown]⟩
    · have ne : n.file ≠ n'.file := fun same' => same (Name.file_injective same')
      exact .inl (bound.of_get? (Store.get?_insert_of_ne ne).symm)
  | refused => exact .inl bound
  | @taken n' x there =>
    by_cases same : n.file = n'.file
    · obtain ⟨here, -, -⟩ := Store.place_eq_file bound
      rw [same] at here
      cases here.symm.trans (Store.get?_erase_self ..)
    · exact .inl (bound.of_get? (Store.get?_erase_of_ne same).symm)
  | kept _ _ same => exact .inl (by rwa [Host.IsBound, same] at bound)

lemma Host.isBound_iff : h.IsBound n k ↔ h.ledger.bound? n = some k := by
  unfold Host.IsBound Ledger.bound?
  simp only [Host.ledger]
  cases h.store.place n with
  | nested | directory => simp
  | file bound =>
    cases bound with
    | none => simp
    | some b => cases b <;> simp

namespace Stake

variable {α : Type} {c : Stake} {p p' : Program α} {m : Move} {j : ObjectId}

/-- What opens nothing leaves the object of a stake as it is. -/
lemma object?_next (none : r.opens? = none) (a : r.Answer) :
    (c.next j r a).object? = c.object? := by
  cases r with
  | openNew | openExisting => cases none
  | map | mutexInit | condInit => cases a <;> rfl
  | _ => rfl

lemma object?_tried : (c.tried r).object? = c.object? :=
  congrArg (Option.map Prod.snd) (c.alike_tried r).opened

/-- Whoever has opened an object opens no other. -/
lemma Permits.opens?_eq_none (permits : c.Permits r) (ek : c.object? = some k) :
    r.opens? = none := by
  cases r with
  | openNew | openExisting =>
    cases (show c = nothing from permits.further)
    cases ek
  | _ => rfl

lemma object?_moves (st : p.Step t h m p' h') (may : ∀ r next, p = .ask r next → c.Permits r)
    (ek : c.object? = some k) : (c.moves h m).object? = some k := by
  cases st with
  | tell | wait => exact ek
  | strike => exact object?_tried.trans ek
  | answer => exact (object?_next ((may _ _ rfl).opens?_eq_none ek) _).trans ek

/-- By a step a party opens no object, or it opens one that is bound to the name that it asks for
then; if it makes the object, the object is new. -/
lemma object?_of_moves (st : p.Step t h m p' h') (ek : (c.moves h m).object? = some k) :
    c.object? = some k ∨ ∃ r next n made, p = .ask r next ∧ r.opens? = some (n, made) ∧
      h'.IsBound n k ∧ (made → k = h.objects.length) := by
  cases st with
  | tell | wait => exact .inl ek
  | strike => exact .inl (object?_tried.symm.trans ek)
  | @answer r next _ a _ e =>
    have ek : (c.next ((h.ledger.opens? r a).getD 0) r a).object? = some k := ek
    cases r with
    | openNew n mode =>
      cases a with
      | error => exact .inl ek
      | ok f =>
        have new : (h.ledger.opens? (.openNew n mode) (.ok f)).getD 0 = k := Option.some.inj ek
        obtain rfl : h.objects.length = k := by simpa [Ledger.opens?, Host.ledger] using new
        cases Host.rebinds_step e with
        | made free =>
          exact .inr ⟨_, _, n, true, rfl, rfl, Store.place_insert free, fun _ => rfl⟩
        | kept other => exact absurd rfl (other n mode)
    | openExisting n =>
      cases a with
      | error => exact .inl ek
      | ok f =>
        obtain ⟨err, ⟨⟩, -⟩ | ⟨k', y, bound, -⟩ := Host.ledger_step e
        have here : (h.ledger.bound? n).getD 0 = k := Option.some.inj ek
        rw [bound] at here
        have bound : h.IsBound n k := Host.isBound_iff.2 (bound.trans (congrArg some here))
        have spared : Request.openExisting n ≠ .unlink n := by
          rintro ⟨⟩
        refine .inr ⟨_, _, n, false, rfl, rfl, bound.step e spared, ?_⟩
        rintro ⟨⟩
    | _ => exact .inl ((object?_next rfl a).symm.trans ek)

/-- Nobody opens an object that is there and has no name. -/
lemma isIn_moves (st : p.Step t h m p' h') (may : ∀ r next, p = .ask r next → c.Permits r)
    (unbound : ∀ n, ¬h'.IsBound n k) : (c.moves h m).isIn k = c.isIn k := by
  refine Bool.eq_iff_iff.2 ⟨fun here => ?_, fun here => ?_⟩
  · obtain old | ⟨r, next, n, made, -, -, bound, -⟩ := object?_of_moves st (beq_iff_eq.1 here)
    · exact beq_iff_eq.2 old
    · exact absurd bound (unbound n)
  · exact beq_iff_eq.2 (object?_moves st may (beq_iff_eq.1 here))

end Stake
end

namespace Session

variable {b : ObjectId} {s s' : Session} {ρ : ThreadId ⊕ String → Stake} {d : Deed}
  {n n' : Name} {k : ObjectId} {A : Name → Prop} {K : ObjectId → Prop} {later : List Deed}

/-- What a name is bound to after a step it was bound to before, or the object was just made under
the name. -/
lemma Touches.isBound_inv (touches : s.Touches s' d) (bound : s'.host.IsBound n k) :
    s.host.IsBound n k ∨ k = s.host.objects.length ∧ k < s'.host.objects.length ∧
      ∃ t r a, d = .moved t s.host (.answered r a) ∧ r.opens? = some (n, true) := by
  have same (e : s'.host.store = s.host.store) : s.host.IsBound n k := by
    rwa [Host.IsBound, e] at bound
  cases touches with
  | nothing e => exact .inl (same (by rw [e]))
  | answered ec alive ep eh =>
    obtain old | ⟨opens, new, lt⟩ := bound.answer_inv eh
    · exact .inl old
    · exact .inr ⟨new, lt, _, _, _, rfl, opens⟩
  | waited eh => exact .inl (same (congrArg Ledger.store (Host.ledger_wait eh)))
  | died e => exact .inl (same (by rw [e]; rfl))

end Session

namespace Host.HasRetired

variable {s s' : Session} {d : Deed} {A A' : Name → Prop} {K : ObjectId → Prop} {past : List Deed}

/-- An object that is retired from a name never gets the name again. -/
theorem step (retired : s.host.HasRetired A K) (st : s.Step d s') : s'.host.HasRetired A K := by
  refine ⟨fun k old => Nat.lt_of_lt_of_le (retired.there k old) st.touches.objects_le, ?_⟩
  intro n k may old bound
  obtain bound | ⟨new, -⟩ := st.touches.isBound_inv bound
  · exact retired.unbound n k may old bound
  · exact Nat.lt_irrefl _ (new ▸ retired.there k old)

theorem run (retired : s.host.HasRetired A K) (run : Run Session.Step s past s') :
    s'.host.HasRetired A K := by
  induction run with
  | nil => exact retired
  | cons _ st ih => exact ih.step st

end Host.HasRetired

namespace Host.IsNamedOnce

variable {s s' : Session} {d : Deed} {past : List Deed}

theorem step (named : s.host.IsNamedOnce) (st : s.Step d s') : s'.host.IsNamedOnce := by
  have touches := st.touches
  refine ⟨?_, ?_⟩
  · intro n k bound
    obtain bound | ⟨-, lt, -⟩ := touches.isBound_inv bound
    · exact Nat.lt_of_lt_of_le (named.there n k bound) touches.objects_le
    · exact lt
  · intro n n' k bound bound'
    obtain old | ⟨new, -, t, r, a, ed, opens⟩ := touches.isBound_inv bound <;>
      obtain old' | ⟨new', -, t', r', a', ed', opens'⟩ := touches.isBound_inv bound'
    · exact named.once n n' k old old'
    · exact absurd (named.there n k old) (by simp [new'])
    · exact absurd (named.there n' k old') (by simp [new])
    · cases ed.symm.trans ed'
      cases opens.symm.trans opens'
      rfl

theorem run (named : s.host.IsNamedOnce) (run : Run Session.Step s past s') :
    s'.host.IsNamedOnce := by
  induction run with
  | nil => exact named
  | cons _ st ih => exact ih.step st

end Host.IsNamedOnce

/-- Every call opens objects only under the name that it was given, and in the way in which it was
told to. -/
def Session.IsAimed (s : Session) : Prop :=
  ∀ t c, s.calls t = some c →
    c.program.Asks fun r => r.opens? = none ∨ r.opens? = c.act.opens?

namespace Underway

variable {c : Underway} {r : Request}

lemma opens?_of_mayAsk (may : c.MayAsk r) (other : c.act.opensHandle = false) :
    r.opens? = none := by
  cases staking : c.act.isStaking with
  | true =>
    obtain ⟨x, g, -, -, tears⟩ := tears_of_mayAsk may staking other
    cases r with
    | openNew | openExisting => cases tears
    | _ => rfl
  | false =>
    obtain ⟨x, g, -, -, uses⟩ := uses_of_mayAsk may staking
    cases r with
    | openNew | openExisting => cases uses
    | _ => rfl

end Underway

lemma asks_openCall_opens {toggle : Option String} {h raw : String} {size : UInt32} {via : Via} :
    (openCall toggle h raw size via).Asks fun r =>
      r.opens? = none ∨ r.opens? = (Act.openHandle h raw size via).opens? := by
  have given {n : Name} (en : Name.ofRaw raw = .ok n) :
      (Act.openHandle h raw size via).opens? = some (n, via.creates size) := by
    simp [Act.opens?, en, Except.toOption]
  refine (Ensures.openCall (fun _ _ => True) toggle (fun _ _ here => here) ?_ ?_ trivial).mono
    fun _ _ _ => trivial
  · intro creates n cfg en _
    refine (Segment.asks_create n cfg size).mono ?_
    intro r makes
    cases r with
    | openNew n' mode =>
      obtain rfl : n' = n := makes
      exact .inr (by rw [given en, creates]; rfl)
    | openExisting => cases makes
    | _ => exact .inl rfl
  · intro finds n cfg en
    refine (Segment.asks_attach_named n cfg).mono ?_
    intro r here
    cases r with
    | openNew => cases here
    | openExisting n' =>
      obtain rfl : n' = n := here
      exact .inr (by rw [given en, finds]; rfl)
    | _ => exact .inl rfl

namespace Session.IsAimed

variable {s s' : Session} {d : Deed} {t : ThreadId} {c : Underway} {past : List Deed}

lemma begin {handles : String → Option Handle} (aimed : s.IsAimed)
    (mine : c.program.Asks fun r => r.opens? = none ∨ r.opens? = c.act.opens?) :
    ({ s with handles }.begin t c).IsAimed := by
  intro t' c' ec
  obtain ⟨-, rfl⟩ | ⟨-, ec⟩ := begin_calls_inv ec
  · exact mine
  · exact aimed t' c' ec

lemma of_mayAsk (asks : c.program.Asks c.MayAsk) (other : c.act.opensHandle = false) :
    c.program.Asks fun r => r.opens? = none ∨ r.opens? = c.act.opens? :=
  asks.mono fun _ may => .inl (Underway.opens?_of_mayAsk may other)

theorem step (aimed : s.IsAimed) (st : s.Step d s') : s'.IsAimed := by
  cases st with
  | openHandle => exact aimed.begin asks_openCall_opens
  | onHandle idle ex excl taken nodrop ep =>
    exact aimed.begin (of_mayAsk (Underway.asks_onHandle ep) rfl)
  | drop idle ex unused ep => exact aimed.begin (of_mayAsk (Underway.asks_onHandle ep) rfl)
  | onGuard => exact aimed.begin (of_mayAsk (Underway.asks_onGuard ..) rfl)
  | @move t c m p' h' ec alive st =>
    intro t' c' ec'
    obtain ⟨-, rfl⟩ | ⟨-, ec'⟩ := move_calls_inv ec'
    · exact ensures_asking_step (aimed t c ec) st
    · exact aimed t' c' ec'
  | finish =>
    intro t' c' ec'
    exact aimed t' c' (conclude_calls_inv ec').2
  | die => exact aimed

theorem of_run {h : Host} (run : Run Session.Step (.ofHost h) past s) : s.IsAimed := by
  induction run with
  | nil => exact fun t c ec => nomatch ec
  | cons run st ih => exact ih.step st

/-- Under which name a call opens what it opens. -/
lemma opens {r : Request} {next : r.Answer → Program Outcome} {x : Name × Bool}
    (aimed : s.IsAimed) (ec : s.calls t = some c) (ep : c.program = .ask r next)
    (opens : r.opens? = some x) : c.act.opens? = some x := by
  have asks := aimed t c ec
  rw [ep] at asks
  obtain none | same := asks.1
  · cases none.symm.trans opens
  · exact same.symm.trans opens

end Session.IsAimed

/-- A thread has begun a call. -/
def Deed.HasBegun (t : ThreadId) (past : List Deed) : Prop :=
  ∃ a, .began t a ∈ past

/-- Some objects are retired from some names. Whoever has begun to open a handle since then, under
one of these names or to make an object, has come to none of the objects, and where somebody has
made an object under a name the others are retired from that name, too. -/
structure Session.Arrives (A : Name → Prop) (K : ObjectId → Prop) (later : List Deed)
    (s : Session) (ρ : ThreadId ⊕ String → Stake) : Prop where
  retired : s.host.HasRetired A K
  newcomers : ∀ t c k, s.calls t = some c → Deed.HasBegun t later → c.act.opensHandle →
    (∀ n, c.act.opens? = some (n, false) → A n) → (ρ (.inl t)).object? = some k → ¬K k
  makers : ∀ t c n k, s.calls t = some c → Deed.HasBegun t later →
    c.act.opens? = some (n, true) → (ρ (.inl t)).object? = some k → s.host.HasRetired (· = n) K

namespace Session.Arrives

variable {b : ObjectId} {s s' : Session} {ρ : ThreadId ⊕ String → Stake} {d : Deed}
  {A : Name → Prop} {K : ObjectId → Prop} {later : List Deed} {t : ThreadId} {c : Underway}

lemma begin (retired : s.host.HasRetired A K) : s.Arrives A K [] ρ := by
  refine ⟨retired, ?_, ?_⟩
  · rintro t c k - ⟨a, ⟨⟩⟩
  · rintro t c n k - ⟨a, ⟨⟩⟩

/-- Whoever has not begun a call just now had begun it before. -/
lemma hasBegun_of_cons (begun : Deed.HasBegun t (d :: later)) (other : ∀ a, d ≠ .began t a) :
    Deed.HasBegun t later := by
  obtain ⟨a, mem⟩ := begun
  obtain same | mem := List.mem_cons.1 mem
  · exact absurd same.symm (other a)
  · exact ⟨a, mem⟩

/-- What a thread comes to by a step in its call. -/
lemma move {m : Move} {p' : Program Outcome} {h' : Host} {k : ObjectId}
    (arrives : s.Arrives A K later ρ) (aimed : s.IsAimed) (ec : s.calls t = some c)
    (alive : s.dead t = false) (begun : Deed.HasBegun t later) (opens : c.act.opensHandle)
    (st : c.program.Step t s.host m p' h')
    (ek : ((ρ (.inl t)).moves s.host m).object? = some k) :
    ((∀ n, c.act.opens? = some (n, false) → A n) → ¬K k) ∧
      ∀ n, c.act.opens? = some (n, true) → h'.HasRetired (· = n) K := by
  have after : Step s _ (s.move t c p' h') := .move ec alive st
  obtain old | ⟨r, next, n, made, ep, under, comes⟩ := Stake.object?_of_moves st ek
  · exact ⟨fun may => arrives.newcomers t c k ec begun opens may old,
      fun n act => (arrives.makers t c n k ec begun act old).step after⟩
  have act := aimed.opens ec ep under
  obtain ⟨bound, new⟩ := comes
  cases made with
  | true =>
    have new := new rfl
    have young : ¬K k := fun old => Nat.lt_irrefl _ (new ▸ arrives.retired.there k old)
    refine ⟨fun _ => young, ?_⟩
    intro n' act'
    cases act.symm.trans act'
    refine ⟨(arrives.retired.step after).there, ?_⟩
    rintro _ j rfl old bound'
    cases bound.symm.trans bound'
    exact young old
  | false =>
    refine ⟨fun may old => (arrives.retired.step after).unbound n k (may n act) old bound, ?_⟩
    intro n' act'
    cases act.symm.trans act'

/-- Whoever is in a call that opens a handle had begun it before a step, or has come to nothing
yet; or it is a step in that call. -/
theorem step (arrives : s.Arrives A K later ρ) (regular : s.IsRegular b ρ) (aimed : s.IsAimed)
    (st : s.Step d s') : s'.Arrives A K (d :: later) (s.restake ρ d) := by
  have retired := arrives.retired.step st
  suffices comes : ∀ t c k, s'.calls t = some c → Deed.HasBegun t (d :: later) →
      c.act.opensHandle → (s.restake ρ d (.inl t)).object? = some k →
        ((∀ n, c.act.opens? = some (n, false) → A n) → ¬K k) ∧
          ∀ n, c.act.opens? = some (n, true) → s'.host.HasRetired (· = n) K by
    refine ⟨retired, fun t c k ec begun opens may ek => (comes t c k ec begun opens ek).1 may, ?_⟩
    intro t c n k ec begun act ek
    have opens : c.act.opensHandle := by
      obtain ⟨act', uses, subject, program⟩ := c
      cases act' with
      | openHandle => rfl
      | _ => cases act
    exact (comes t c k ec begun opens ek).2 n act
  intro t c k ec begun opens ek
  have before (there : s.calls t = some c) (other : ∀ a, d ≠ .began t a)
      (same : s.restake ρ d (.inl t) = ρ (.inl t)) :
      ((∀ n, c.act.opens? = some (n, false) → A n) → ¬K k) ∧
        ∀ n, c.act.opens? = some (n, true) → s'.host.HasRetired (· = n) K := by
    have begun := hasBegun_of_cons begun other
    rw [same] at ek
    exact ⟨fun may => arrives.newcomers t c k there begun opens may ek,
      fun n act => (arrives.makers t c n k there begun act ek).step st⟩
  by_cases et : t = d.thread
  case neg =>
    have there := (regular.lent.others_step st et).1.symm.trans ec
    refine before there ?_ (restake_of_ne et)
    rintro a rfl
    exact et rfl
  cases st with
  | @openHandle t' =>
    obtain rfl : t = t' := et
    have fresh : update ρ (.inl t) Stake.nothing (.inl t) = .nothing := update_self ..
    cases (congrArg Stake.object? fresh).symm.trans ek
  | onHandle | drop | onGuard =>
    obtain ⟨-, rfl⟩ | ⟨ne, -⟩ := begin_calls_inv ec
    · cases opens
    · exact absurd et ne
  | @move t' c' m p' h' ec' alive st' =>
    obtain rfl : t = t' := et
    obtain ⟨-, rfl⟩ | ⟨ne, -⟩ := move_calls_inv ec
    · have opens : c'.act.opensHandle := opens
      have begun := hasBegun_of_cons begun (by simp)
      have stake : s.restake ρ (.moved t s.host m) (.inl t) = (ρ (.inl t)).moves s.host m :=
        restake_moved_opening ec' opens
      have came := arrives.move aimed ec' alive begun opens st' (stake ▸ ek)
      exact came
    · exact absurd rfl ne
  | finish => exact absurd et (conclude_calls_inv ec).1
  | die => exact before ec (by simp) rfl

theorem run (retired : s.host.HasRetired A K) (regular : s.IsRegular b ρ) (aimed : s.IsAimed)
    (run : Run Session.Step s later s') :
    ∃ ρ', s'.IsRegular b ρ' ∧ s'.IsAimed ∧ s'.Arrives A K later ρ' := by
  induction run with
  | nil => exact ⟨ρ, regular, aimed, .begin retired⟩
  | cons run st ih =>
    obtain ⟨ρ', regular', aimed', arrives⟩ := ih
    exact ⟨_, regular'.step st, aimed'.step st, arrives.step regular' aimed' st⟩

end Session.Arrives
end SharedSegment
