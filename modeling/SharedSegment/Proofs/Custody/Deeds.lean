import SharedSegment.Proofs.Custody.Custodians
import SharedSegment.Proofs.Interleaving

/-!
# Deeds on objects

What a party that keeps to the protocol of custodians does to objects by one request: it makes one,
or alters one in the way that belongs to the request (`Ledger.Alters`), or leaves all as they are
(`Custodians.affects`). So the mutex of an object is down if and only if some deed has taken it
down, and likewise its condition (`Custodians.destroyed_iff`).
-/

namespace SharedSegment

namespace Ledger

/-- How an answered request alters an object. -/
def Alters (l : Ledger) : (r : Request) → r.Answer → ObjectId → Outline → Outline → Prop
  | .resize .., _, _, o, o' => o.size = 0 ∧ o.mutex = .blank ∧ o.condition = .blank ∧
      o'.size = 0 ∧ o'.mutex = .blank ∧ o'.condition = .blank
  | .storeSize m n, _, k, o, o' => (∃ x, l.mapping? m = some x ∧ x.object = k) ∧ o' = o.withSize n
  | .mutexInit _, _, _, o, o' => o.mutex = .blank ∧ o' = o.withMutex .live
  | .condInit _, _, _, o, o' => o.condition = .blank ∧ o' = o.withCondition .live
  | .mutexDestroy m, a, k, o, o' =>
    a = .ok () ∧ (∃ x, l.mapping? m = some x ∧ x.object = k) ∧ o' = o.withMutex .destroyed
  | .condDestroy m, a, k, o, o' =>
    a = .ok () ∧ (∃ x, l.mapping? m = some x ∧ x.object = k) ∧ o' = o.withCondition .destroyed
  | _, _, _, _, _ => False

/-- What becomes of objects by a request: all stay, one is made, or one is altered. -/
def Affects (l : Ledger) (r : Request) (a : r.Answer) (l' : Ledger) : Prop :=
  l'.outlines = l.outlines ∨
    (∃ n mode, r = .openNew n mode) ∧ l'.outlines = l.outlines ++ [.blank] ∨
    ∃ k o o', l.outline? k = some o ∧ l'.outlines = l.outlines.set k o' ∧ l.Alters r a k o o'

end Ledger

namespace Custodians

variable {ι : Type} {torn : Prop} {b : ObjectId} {l l' : Ledger} {σ : ι → Custody} {i : ι}
  {r : Request} {a : r.Answer}

/-- What a party changes under its mapping is the object that it has made. -/
lemma affects_of_change {m : MappingId} {is : Outline → Prop} (cu : Custodians torn b l σ)
    (makes : (σ i).Makes m is) (act : Outline → Outline)
    (alters : ∀ x o, l.mapping? m = some x → is o → l.Alters r a x.object o (act o)) :
    l.Affects r a (l.change m act) := by
  obtain ⟨x, o, em, eo, ok, here, under⟩ := cu.outline_of_makes makes
  rw [change_eq under]
  exact .inr (.inr ⟨_, o, _, here, rfl, alters x o (cu.mappings.known i _ _ em) ok⟩)

/-- What a party that keeps to the protocol does to objects. -/
lemma affects (cu : Custodians torn b l σ) (may : (σ i).Permits torn r) (st : l.Step r a l') :
    l.Affects r a l' := by
  cases r with
  | openNew =>
    rcases st with ⟨e, -, rfl⟩ | ⟨-, rfl⟩
    · exact .inl rfl
    · exact .inr (.inl ⟨⟨_, _, rfl⟩, rfl⟩)
  | openExisting =>
    rcases st with ⟨e, -, rfl⟩ | ⟨k, o, -, -, -, rfl⟩
    · exact .inl rfl
    · exact .inl rfl
  | unlink =>
    rcases st with ⟨e, -, rfl⟩ | ⟨-, rfl⟩
    · exact .inl rfl
    · exact .inl rfl
  | resize f len =>
    obtain ⟨k, o, ef, eo, zero, mutex, condition⟩ := may
    have here := cu.owns.known i _ _ eo
    have opened := cu.opened_of_file ef here
    rcases st with ⟨e, -, -, rfl⟩ | ⟨k', o', size, some, -, kept, rfl⟩
    · exact .inl rfl
    · cases opened.symm.trans some
      exact .inr (.inr ⟨k, o, _, here, rfl, zero, mutex, condition, kept zero, by simp [mutex],
        by simp [condition]⟩)
  | map =>
    rcases st with ⟨e, -, -, rfl⟩ | ⟨k, o, -, -, rfl⟩
    · exact .inl rfl
    · exact .inl rfl
  | mutexInit m | condInit m =>
    rcases st with ⟨e, -, -, rfl⟩ | ⟨-, rfl⟩
    · exact .inl rfl
    · exact cu.affects_of_change may _ fun _ _ _ blank => ⟨blank, rfl⟩
  | mutexDestroy m | condDestroy m =>
    rcases st with ⟨e, -, rfl⟩ | ⟨rfl, rfl⟩
    · exact .inl rfl
    · exact cu.affects_of_change may _ fun x _ ex _ => ⟨rfl, ⟨x, ex, rfl⟩, rfl⟩
  | storeSize m n =>
    obtain rfl := st
    exact cu.affects_of_change may.2 _ fun x _ ex _ => ⟨⟨x, ex, rfl⟩, rfl⟩
  | length | loadSize =>
    obtain ⟨rfl, -⟩ := st
    exact .inl rfl
  | unmap =>
    obtain ⟨-, rfl⟩ := st
    exact .inl rfl
  | write m off bs | clear m off len =>
    obtain rfl := st may
    exact .inl rfl
  | _ =>
    obtain rfl := st
    exact .inl rfl

end Custodians

namespace Ledger.Affects

variable {l l' : Ledger} {r : Request} {a : r.Answer} {k : ObjectId} {o o' : Outline}

lemma length_le (af : l.Affects r a l') : l.outlines.length ≤ l'.outlines.length := by
  rcases af with e | ⟨-, e⟩ | ⟨k, o, o', -, e, -⟩
  · exact e ▸ Nat.le_refl _
  · simp [e]
  · simp [e]

/-- An object that was not there was just made. -/
lemma openNew_of_new (af : l.Affects r a l') (absent : l.outline? k = none)
    (here : l'.outline? k = some o') : ∃ n mode, r = .openNew n mode := by
  rw [outline?] at here
  rcases af with e | ⟨new, -⟩ | ⟨k₁, o₁, o₂, here₁, e, alters⟩
  · rw [e] at here
    cases absent.symm.trans here
  · exact new
  · have le := List.getElem?_eq_none_iff.1 absent
    obtain ⟨lt, -⟩ := List.getElem?_eq_some_iff.1 here
    rw [e, List.length_set] at lt
    exact absurd lt (Nat.not_lt.2 le)

lemma outline_inv (af : l.Affects r a l') (here : l'.outline? k = some o') :
    l.outline? k = some o' ∨ o' = .blank ∨ ∃ o, l.outline? k = some o ∧ l.Alters r a k o o' := by
  rw [outline?] at here
  rcases af with e | ⟨-, e⟩ | ⟨k₁, o₁, o₂, here₁, e, alters⟩
  · rw [e] at here
    exact .inl here
  · rw [e] at here
    by_cases lt : k < l.outlines.length
    · rw [List.getElem?_append_left lt] at here
      exact .inl here
    · rw [List.getElem?_append_right (Nat.le_of_not_lt lt)] at here
      have mem := List.mem_of_getElem? here
      exact .inr (.inl (by simpa using mem))
  · rw [e] at here
    by_cases ek : k₁ = k
    · subst ek
      obtain ⟨lt, -⟩ := List.getElem?_eq_some_iff.1 here₁
      rw [List.getElem?_set_self lt] at here
      cases here
      exact .inr (.inr ⟨o₁, here₁, alters⟩)
    · rw [List.getElem?_set_ne ek] at here
      exact .inl here

lemma outline_of (af : l.Affects r a l') (here : l.outline? k = some o) :
    ∃ o', l'.outline? k = some o' ∧ (o' = o ∨ l.Alters r a k o o') := by
  obtain ⟨lt, _⟩ := List.getElem?_eq_some_iff.1 here
  rcases af with e | ⟨-, e⟩ | ⟨k₁, o₁, o₂, here₁, e, alters⟩
  · refine ⟨o, ?_, .inl rfl⟩
    rwa [outline?, e]
  · refine ⟨o, ?_, .inl rfl⟩
    rwa [outline?, e, List.getElem?_append_left lt]
  · by_cases ek : k₁ = k
    · subst ek
      cases here₁.symm.trans here
      refine ⟨o₂, ?_, .inr alters⟩
      rw [outline?, e, List.getElem?_set_self lt]
    · refine ⟨o, ?_, .inl rfl⟩
      rwa [outline?, e, List.getElem?_set_ne ek]

end Ledger.Affects

/-- What the users of a segment are synchronized by. -/
inductive SyncPart where
  | mutex
  | condition

/-- The state of a part of an object. -/
def Outline.life (o : Outline) : SyncPart → Life
  | .mutex => o.mutex
  | .condition => o.condition

/-- The parts of a finished segment have been set up. -/
lemma Outline.IsSane.life {torn : Prop} {o : Outline} (sane : o.IsSane torn) (ne : o.size ≠ 0)
    (part : SyncPart) : o.life part = .live ∨ torn ∧ o.life part = .destroyed := by
  cases part with
  | mutex => exact sane.mutex ne
  | condition => exact sane.condition ne

/-- A part of an object was set up, and may have been taken down since. -/
def Ledger.HasPart (l : Ledger) (k : ObjectId) (part : SyncPart) : Prop :=
  ∃ o, l.outline? k = some o ∧ o.life part ≠ .blank

/-- An answered request takes a part of an object down. -/
def Ledger.TakesDown (l : Ledger) (k : ObjectId) : SyncPart → (r : Request) → r.Answer → Prop
  | .mutex, .mutexDestroy m, a => a = .ok () ∧ ∃ x, l.mapping? m = some x ∧ x.object = k
  | .condition, .condDestroy m, a => a = .ok () ∧ ∃ x, l.mapping? m = some x ∧ x.object = k
  | _, _, _ => False

/-- Some thread takes a part of an object down. -/
def Deed.TakesDown (part : SyncPart) (k : ObjectId) : Deed → Prop
  | .moved _ h (.answered r a) => h.ledger.TakesDown k part r a
  | _ => False

section
variable {l l' : Ledger} {r : Request} {a : r.Answer} {k : ObjectId} {o o' : Outline}
  {part : SyncPart}

/-- A part of an altered object is down if it was before, or if it was just taken down. -/
lemma Ledger.Alters.destroyed_iff (alters : l.Alters r a k o o') :
    o'.life part = .destroyed ↔ l.TakesDown k part r a ∨ o.life part = .destroyed := by
  cases r with
  | resize =>
    obtain ⟨-, mutex, condition, -, mutex', condition'⟩ := alters
    cases part with
    | mutex => simp [Ledger.TakesDown, Outline.life, mutex, mutex']
    | condition => simp [Ledger.TakesDown, Outline.life, condition, condition']
  | storeSize =>
    obtain ⟨-, rfl⟩ := alters
    cases part with
    | mutex => exact (or_iff_right id).symm
    | condition => exact (or_iff_right id).symm
  | mutexInit =>
    obtain ⟨blank, rfl⟩ := alters
    cases part with
    | mutex => simp [Ledger.TakesDown, Outline.life, Outline.withMutex, blank]
    | condition => exact (or_iff_right id).symm
  | condInit =>
    obtain ⟨blank, rfl⟩ := alters
    cases part with
    | mutex => exact (or_iff_right id).symm
    | condition => simp [Ledger.TakesDown, Outline.life, Outline.withCondition, blank]
  | mutexDestroy =>
    obtain ⟨ok, shows, rfl⟩ := alters
    cases part with
    | mutex => exact iff_of_true rfl (.inl ⟨ok, shows⟩)
    | condition => exact (or_iff_right id).symm
  | condDestroy =>
    obtain ⟨ok, shows, rfl⟩ := alters
    cases part with
    | mutex => exact (or_iff_right id).symm
    | condition => exact iff_of_true rfl (.inl ⟨ok, shows⟩)
  | _ => cases alters

/-- A part that was set up is not made anew. -/
lemma Ledger.Alters.life_ne_blank (alters : l.Alters r a k o o') (set : o.life part ≠ .blank) :
    o'.life part ≠ .blank := by
  cases r with
  | resize =>
    obtain ⟨-, mutex, condition, -⟩ := alters
    cases part with
    | mutex => exact absurd mutex set
    | condition => exact absurd condition set
  | storeSize =>
    obtain ⟨-, rfl⟩ := alters
    cases part with
    | mutex => exact set
    | condition => exact set
  | mutexInit =>
    obtain ⟨-, rfl⟩ := alters
    cases part with
    | mutex => nofun
    | condition => exact set
  | condInit =>
    obtain ⟨-, rfl⟩ := alters
    cases part with
    | mutex => exact set
    | condition => nofun
  | mutexDestroy =>
    obtain ⟨-, -, rfl⟩ := alters
    cases part with
    | mutex => nofun
    | condition => exact set
  | condDestroy =>
    obtain ⟨-, -, rfl⟩ := alters
    cases part with
    | mutex => exact set
    | condition => nofun
  | _ => cases alters

end

namespace Custodians

variable {ι : Type} {torn : Prop} {b : ObjectId} {l l' : Ledger} {σ : ι → Custody} {i : ι}
  {r : Request} {a : r.Answer} {k : ObjectId} {part : SyncPart}

lemma hasPart (cu : Custodians torn b l σ) (may : (σ i).Permits torn r) (st : l.Step r a l')
    (has : l.HasPart k part) : l'.HasPart k part := by
  obtain ⟨o, here, set⟩ := has
  obtain ⟨o', here', rfl | alters⟩ := (cu.affects may st).outline_of here
  · exact ⟨o', here', set⟩
  · exact ⟨o', here', alters.life_ne_blank set⟩

/-- What a party has changed under its mapping is as it has left it. -/
lemma outline?_change {m : MappingId} {x : Mapping} {is : Outline → Prop}
    (cu : Custodians torn b l σ) (makes : (σ i).Makes m is) (ex : l.mapping? m = some x)
    (act : Outline → Outline) :
    ∃ o, (l.change m act).outline? x.object = some (act o) := by
  obtain ⟨y, o, em, -, -, here, under⟩ := cu.outline_of_makes makes
  cases ex.symm.trans (cu.mappings.known i _ _ em)
  rw [change_eq under]
  exact ⟨o, Ledger.outline?_setOutline_self _ here⟩

/-- Whoever takes a part of an object down leaves it so. -/
lemma destroyed_of_takesDown (cu : Custodians torn b l σ) (may : (σ i).Permits torn r)
    (st : l.Step r a l') (down : l.TakesDown k part r a) :
    ∃ o, l'.outline? k = some o ∧ o.life part = .destroyed := by
  cases part with
  | mutex =>
    cases r with
    | mutexDestroy m =>
      obtain ⟨ok, x, ex, rfl⟩ := down
      rcases st with ⟨e, failed, -⟩ | ⟨-, rfl⟩
      · cases ok.symm.trans failed
      · obtain ⟨o, here⟩ := cu.outline?_change may ex fun o => o.withMutex .destroyed
        exact ⟨_, here, rfl⟩
    | _ => cases down
  | condition =>
    cases r with
    | condDestroy m =>
      obtain ⟨ok, x, ex, rfl⟩ := down
      rcases st with ⟨e, failed, -⟩ | ⟨-, rfl⟩
      · cases ok.symm.trans failed
      · obtain ⟨o, here⟩ := cu.outline?_change may ex fun o => o.withCondition .destroyed
        exact ⟨_, here, rfl⟩
    | _ => cases down

/-- A part of an object is down if it was before, or if it was just taken down. -/
lemma destroyed_iff (cu : Custodians torn b l σ) (may : (σ i).Permits torn r)
    (st : l.Step r a l') :
    (∃ o, l'.outline? k = some o ∧ o.life part = .destroyed) ↔
      l.TakesDown k part r a ∨ ∃ o, l.outline? k = some o ∧ o.life part = .destroyed := by
  have af := cu.affects may st
  constructor
  -- A part that is down now was down before, is new and so not set up, or was taken down by this.
  · rintro ⟨o', here, down⟩
    rcases af.outline_inv here with before | rfl | ⟨o, before, alters⟩
    · exact .inr ⟨o', before, down⟩
    · cases part <;> cases down
    · rcases alters.destroyed_iff.1 down with takes | down
      · exact .inl takes
      · exact .inr ⟨o, before, down⟩
  · rintro (takes | ⟨o, before, down⟩)
    · exact cu.destroyed_of_takesDown may st takes
    · obtain ⟨o', here, rfl | alters⟩ := af.outline_of before
      · exact ⟨o', here, down⟩
      · exact ⟨o', here, alters.destroyed_iff.2 (.inr down)⟩

end Custodians

end SharedSegment
