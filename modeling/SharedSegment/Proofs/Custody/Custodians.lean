import SharedSegment.Header
import SharedSegment.Proofs.Custody.Claims
import SharedSegment.Proofs.Custody.Ledger
import SharedSegment.Proofs.Ensures

/-!
# Custodians

A party has in its custody an open file, a mapping, and an object that it has made. Nobody else
closes the file or takes the mapping away, and nobody else sets the object up, publishes its size,
or takes its mutex and its condition down. `Protocol.custody` is what a party may do by this, and
`Custodians` what holds of all parties together: what each believes of its custody is true, no two
have the same thing in custody, and a size that is published is the size of a finished segment.

`Custodians.answer` is the step: whoever keeps to the protocol leaves all this as it is.
-/

namespace SharedSegment
open Function

/-- Whether an outline is one of a finished segment, if its size is published. Where finished
segments may be torn down, it may be one of a segment that was. -/
structure Outline.IsSane (torn : Prop) (o : Outline) : Prop where
  length : o.size ≠ 0 → o.length = Header.total o.size
  mutex : o.size ≠ 0 → o.mutex = .live ∨ torn ∧ o.mutex = .destroyed
  condition : o.size ≠ 0 → o.condition = .live ∨ torn ∧ o.condition = .destroyed

lemma Outline.isSane_of_size {torn : Prop} {o : Outline} (zero : o.size = 0) : o.IsSane torn :=
  ⟨fun ne => absurd zero ne, fun ne => absurd zero ne, fun ne => absurd zero ne⟩

/-- What a party has in custody. -/
structure Custody where
  /-- The size that it may publish. -/
  target : UInt32
  /-- The object that it has opened. -/
  opened : Option ObjectId
  /-- An open file, with its object. -/
  file : Option (FileId × ObjectId)
  mapping : Option (MappingId × Mapping)
  /-- The object that it has made. -/
  own : Option (ObjectId × Outline)
  /-- The size that it has read last, with the object that it was read from. -/
  seen : Option (ObjectId × UInt32)

namespace Custody

def nothing (target : UInt32) : Custody := ⟨target, none, none, none, none, none⟩

/-- A party has made the object under a mapping of its own, which is as a condition says. -/
def Makes (c : Custody) (m : MappingId) (is : Outline → Prop) : Prop :=
  ∃ x o, c.mapping = some (m, x) ∧ c.own = some (x.object, o) ∧ is o

/-- The object in custody has changed. -/
def become (c : Custody) (act : Outline → Outline) : Custody :=
  { c with own := c.own.map fun x => (x.1, act x.2) }

lemma become_own {c : Custody} {k : ObjectId} {o : Outline} (e : c.own = some (k, o))
    (act : Outline → Outline) : (c.become act).own = some (k, act o) := by
  rw [become, e]
  rfl

/-- What a party may ask. It opens one object only, and what it has published it takes down only
where that may be done. -/
def Permits (torn : Prop) (c : Custody) : Request → Prop
  | .openNew .. => c.opened = none ∧ c.own = none
  | .openExisting .. => c.opened = none
  | .resize f _ =>
    ∃ k o, c.file = some (f, k) ∧ c.own = some (k, o) ∧ o.size = 0 ∧ o.mutex = .blank ∧
      o.condition = .blank
  | .length f | .close f | .map f _ => ∃ k, c.file = some (f, k)
  | .unmap m | .loadSize m => ∃ x, c.mapping = some (m, x)
  | .storeSize m n =>
    n = c.target ∧ c.Makes m fun o =>
      o.size = 0 ∧ o.length = Header.total n ∧ o.mutex = .live ∧ o.condition = .live
  | .mutexInit m => c.Makes m fun o => o.mutex = .blank
  | .condInit m => c.Makes m fun o => o.condition = .blank
  | .mutexDestroy m | .condDestroy m => c.Makes m fun o => o.size = 0 ∨ torn
  | .write _ off _ | .clear _ off _ => 4 ≤ off
  | .hold _ => False
  | _ => True

/-- With which answers a custody goes on, and how. -/
def Answers (c : Custody) : (r : Request) → r.Answer → Custody → Prop
  | .openNew .., a, c' =>
    (∃ e, a = .error e ∧ c' = c) ∨
    ∃ f k, a = .ok f ∧
      c' = { c with opened := some k, file := some (f, k), own := some (k, .blank) }
  | .openExisting .., a, c' =>
    (∃ e, a = .error e ∧ c' = c) ∨
    ∃ f k, a = .ok f ∧ c' = { c with opened := some k, file := some (f, k) }
  | .resize _ len, a, c' => a = .ok () ∧ c' = c.become fun o => o.withLength len
  | .length _, a, c' => ∃ n, a = .ok n ∧ c' = c
  | .close _, _, c' => c' = { c with file := none }
  | .map f len, a, c' =>
    ∃ m k, a = .ok m ∧ c.file = some (f, k) ∧ c' = { c with mapping := some (m, ⟨k, len⟩) }
  | .unmap _, a, c' => a = .ok () ∧ c' = { c with mapping := none }
  | .loadSize m, a, c' =>
    ∃ x, c.mapping = some (m, x) ∧ c' = { c with seen := some (x.object, a) }
  | .storeSize _ n, _, c' => c' = c.become fun o => o.withSize n
  | .mutexInit _, a, c' => a = .ok () ∧ c' = c.become fun o => o.withMutex .live
  | .condInit _, a, c' => a = .ok () ∧ c' = c.become fun o => o.withCondition .live
  | .mutexDestroy _, a, c' =>
    (∃ e, a = .error e ∧ c' = c) ∨
    a = .ok () ∧ c' = c.become fun o => o.withMutex .destroyed
  | .condDestroy _, a, c' =>
    (∃ e, a = .error e ∧ c' = c) ∨
    a = .ok () ∧ c' = c.become fun o => o.withCondition .destroyed
  | _, _, c' => c' = c

end Custody

/-- How custodians and their host behave, by whether finished segments may be torn down and whether
calls may fail by themselves. -/
def Protocol.custody (torn faulty : Prop) : Protocol Custody where
  Permits := Custody.Permits torn
  Answers c r a c' :=
    c.Answers r a c' ∨ faulty ∧ c' = c ∧ ∃ call fail e, r.call? = some (call, fail) ∧ a = fail e
  tells c _ := c

/-- What a party believes is true of a ledger. -/
structure Custody.Knows (c : Custody) (l : Ledger) : Prop where
  file : ∀ f k, c.file = some (f, k) → (l.outline? k).isSome
  mapping : ∀ m x, c.mapping = some (m, x) → (l.outline? x.object).isSome
  own : ∀ k o, c.own = some (k, o) → o.size = 0 ∨ o.size = c.target
  seen : ∀ k n, c.seen = some (k, n) → n ≠ 0 → ∃ o, l.outline? k = some o ∧ o.size = n

/-- What several parties have in custody on a host whose objects are sound, from some number on. -/
structure Custodians {ι : Type} (torn : Prop) (b : ObjectId) (l : Ledger) (σ : ι → Custody) :
    Prop where
  files : Claims l.file? fun i => (σ i).file
  mappings : Claims l.mapping? fun i => (σ i).mapping
  owns : Claims l.outline? fun i => (σ i).own
  knows : ∀ i, (σ i).Knows l
  sane : ∀ k o, b ≤ k → l.outline? k = some o → o.IsSane torn

/-- Objects stay, and so do sizes that were published. -/
def Ledger.Stays (l l' : Ledger) : Prop :=
  ∀ k o, l.outline? k = some o → ∃ o', l'.outline? k = some o' ∧ (o.size ≠ 0 → o'.size = o.size)

namespace Ledger

variable {l l' : Ledger}

lemma Stays.of_outlines (e : l'.outlines = l.outlines) : l.Stays l' := by
  intro k o eo
  refine ⟨o, ?_, fun _ => rfl⟩
  rwa [outline?, e]

lemma Stays.isSome {k : ObjectId} (stays : l.Stays l') (here : (l.outline? k).isSome) :
    (l'.outline? k).isSome := by
  obtain ⟨o, eo⟩ := Option.isSome_iff_exists.1 here
  obtain ⟨o', eo', -⟩ := stays k o eo
  exact Option.isSome_iff_exists.2 ⟨o', eo'⟩

end Ledger

/-- What a party believes stays true. -/
lemma Custody.Knows.stays {c : Custody} {l l' : Ledger} (knows : c.Knows l) (stays : l.Stays l') :
    c.Knows l' where
  file f k e := stays.isSome (knows.file f k e)
  mapping m x e := stays.isSome (knows.mapping m x e)
  own := knows.own
  seen k n e ne := by
    obtain ⟨o, eo, es⟩ := knows.seen k n e ne
    obtain ⟨o', eo', same⟩ := stays k o eo
    exact ⟨o', eo', (same (es ▸ ne)).trans es⟩

/-- The object that an answered request opens. -/
def Ledger.opens? (l : Ledger) : (r : Request) → r.Answer → Option ObjectId
  | .openNew .., .ok _ => some l.outlines.length
  | .openExisting n, .ok _ => l.bound? n
  | _, _ => none

/-- The object whose size a request reads. -/
def Ledger.Probes (l : Ledger) (k : ObjectId) : Request → Prop
  | .loadSize m => ∃ x, l.mapping? m = some x ∧ x.object = k
  | _ => False

/-- What a party has come to open or see by an answer. -/
structure Custody.Gains (l : Ledger) (r : Request) (a : r.Answer) (c c' : Custody) : Prop where
  opened : c'.opened = (l.opens? r a).or c.opened
  seen : ∀ k n, c'.seen = some (k, n) →
    c.seen = some (k, n) ∨ l.Probes k r ∧ ∃ o, l.outline? k = some o ∧ o.size = n

namespace Custodians

section
variable {α : Type} {t : List (Option α)} {n : Nat} {a b : α}

lemma lookup_append (e : t[n]?.join = some a) : (t ++ [some b])[n]?.join = some a := by
  have lt : n < t.length := by
    by_contra ge
    rw [List.getElem?_eq_none (by omega)] at e
    cases e
  rwa [List.getElem?_append_left lt]

lemma lookup_last : (t ++ [some b])[t.length]?.join = some b := by
  simp

lemma lookup_length : (t[t.length]?).join = none := by
  simp

lemma lookup_set {n' : Nat} (ne : n' ≠ n) : (t.set n none)[n']?.join = t[n']?.join := by
  rw [List.getElem?_set_ne ne.symm]

end

variable {ι : Type} [DecidableEq ι] {torn : Prop} {b : ObjectId} {l l' : Ledger} {σ : ι → Custody}
  {i : ι} {c : Custody}

/-- A party with nothing in custody believes nothing. -/
lemma knows_nothing (target : UInt32) : (Custody.nothing target).Knows l := by
  constructor
  · intro f k e
    cases e
  · intro m x e
    cases e
  · intro k o e
    cases e
  · intro k n e
    cases e

omit [DecidableEq ι] in
lemma init (target : ι → UInt32)
    (sane : ∀ k o, b ≤ k → l.outline? k = some o → o.IsSane torn) :
    Custodians torn b l fun i => .nothing (target i) :=
  ⟨.nobody, .nobody, .nobody, fun i => knows_nothing (target i), sane⟩

omit [DecidableEq ι] in
/-- What parties have in custody may be handed over. -/
lemma reindex {ι' : Type} {e : ι' → ι} (cu : Custodians torn b l σ) (inj : Injective e) :
    Custodians torn b l fun j => σ (e j) :=
  ⟨cu.files.reindex inj, cu.mappings.reindex inj, cu.owns.reindex inj, fun j => cu.knows (e j),
    cu.sane⟩

/-- What one party has to show to go on with another custody. -/
lemma update (cu : Custodians torn b l σ)
    (files : Claims l'.file? fun j => (Function.update σ i c j).file)
    (mappings : Claims l'.mapping? fun j => (Function.update σ i c j).mapping)
    (owns : Claims l'.outline? fun j => (Function.update σ i c j).own)
    (stays : l.Stays l') (knows : c.Knows l')
    (sane : ∀ k o, b ≤ k → l'.outline? k = some o → o.IsSane torn) :
    Custodians torn b l' (Function.update σ i c) := by
  refine ⟨files, mappings, owns, ?_, sane⟩
  intro j
  by_cases ej : j = i
  · subst ej
    rwa [update_self]
  · rw [update_of_ne ej]
    exact (cu.knows j).stays stays

omit [DecidableEq ι] in
/-- The names of a host are no concern of custodians. -/
lemma of_store (cu : Custodians torn b l σ) (store : Store) :
    Custodians torn b { l with store } σ :=
  ⟨cu.files, cu.mappings, cu.owns, fun i => (cu.knows i).stays (.of_outlines rfl), cu.sane⟩

omit [DecidableEq ι] in
/-- The object that a party has made, under a mapping of its own. -/
lemma outline_of_makes {m : MappingId} {is : Outline → Prop} (cu : Custodians torn b l σ)
    (makes : (σ i).Makes m is) :
    ∃ x o, (σ i).mapping = some (m, x) ∧ (σ i).own = some (x.object, o) ∧ is o ∧
      l.outline? x.object = some o ∧ l.under? m = some (x.object, o) := by
  obtain ⟨x, o, em, eo, ok⟩ := makes
  have here := cu.owns.known i _ _ eo
  refine ⟨x, o, em, eo, ok, here, ?_⟩
  rw [Ledger.under?, cu.mappings.known i _ _ em, Option.bind_some, here]
  rfl

omit [DecidableEq ι] in
lemma opened_of_file {f : FileId} {k : ObjectId} {o : Outline} (cu : Custodians torn b l σ)
    (mine : (σ i).file = some (f, k)) (here : l.outline? k = some o) :
    l.opened? f = some (k, o) := by
  rw [Ledger.opened?, cu.files.known i _ _ mine, Option.bind_some, here]
  rfl

lemma forget (cu : Custodians torn b l σ) (i : ι) (target : UInt32) :
    Custodians torn b l (Function.update σ i (.nothing target)) :=
  cu.update (cu.files.drop (fun _ _ e => e) rfl) (cu.mappings.drop (fun _ _ e => e) rfl)
    (cu.owns.drop (fun _ _ e => e) rfl) (.of_outlines rfl) (knows_nothing target) cu.sane

/-- A party changes the object that it has made. -/
lemma become {k : ObjectId} {o : Outline} (cu : Custodians torn b l σ) (act : Outline → Outline)
    (eo : (σ i).own = some (k, o)) (size : o.size = 0 ∨ (act o).size = o.size)
    (aimed : (act o).size = 0 ∨ (act o).size = (σ i).target) (sane : b ≤ k → (act o).IsSane torn) :
    Custodians torn b (l.setOutline k (act o)) (Function.update σ i ((σ i).become act)) := by
  have here := cu.owns.known i _ _ eo
  have self := Ledger.outline?_setOutline_self (act o) here
  have others k' (ne : k' ≠ k) : (l.setOutline k (act o)).outline? k' = l.outline? k' :=
    List.getElem?_set_ne ne.symm
  have own := Custody.become_own eo act
  have stays : l.Stays (l.setOutline k (act o)) := by
    intro k' o' eo'
    by_cases ek : k' = k
    · subst ek
      cases here.symm.trans eo'
      exact ⟨_, self, fun ne => size.resolve_left ne⟩
    · exact ⟨o', (others k' ek).trans eo', fun _ => rfl⟩
  have knows := (cu.knows i).stays stays
  refine cu.update (cu.files.keep (fun _ _ e => e) rfl) (cu.mappings.keep (fun _ _ e => e) rfl)
    (cu.owns.set eo others self own) stays ?_ ?_
  · refine ⟨knows.file, knows.mapping, ?_, knows.seen⟩
    intro k' o' e
    cases own.symm.trans e
    exact aimed
  · intro k' o' le eo'
    by_cases ek : k' = k
    · subst ek
      cases self.symm.trans eo'
      exact sane le
    · exact cu.sane k' o' le ((others k' ek).symm.trans eo')

/-- A party sets something up in the object that it has made, or takes it down. -/
lemma touch {k : ObjectId} {o : Outline} (cu : Custodians torn b l σ) (act : Outline → Outline)
    (eo : (σ i).own = some (k, o)) (size : (act o).size = o.size)
    (sane : o.IsSane torn → (act o).IsSane torn) :
    Custodians torn b (l.setOutline k (act o)) (Function.update σ i ((σ i).become act)) := by
  refine cu.become act eo (.inr size) (by rw [size]; exact (cu.knows i).own k o eo) ?_
  intro le
  exact sane (cu.sane k o le (cu.owns.known i _ _ eo))

lemma openNew (cu : Custodians torn b l σ) :
    Custodians torn b
      { l with
        outlines := l.outlines ++ [.blank]
        files := l.files ++ [some l.outlines.length] }
      (Function.update σ i
        { σ i with
          opened := some l.outlines.length
          file := some (l.files.length, l.outlines.length)
          own := some (l.outlines.length, .blank) }) := by
  have old (k : Nat) (o : Outline) (e : l.outlines[k]? = some o) :
      (l.outlines ++ [.blank])[k]? = some o := by
    obtain ⟨lt, _⟩ := List.getElem?_eq_some_iff.1 e
    rwa [List.getElem?_append_left lt]
  have new : (l.outlines ++ [.blank])[l.outlines.length]? = some Outline.blank := by simp
  have stays : l.Stays { l with
      outlines := l.outlines ++ [.blank], files := l.files ++ [some l.outlines.length] } :=
    fun k o e => ⟨o, old k o e, fun _ => rfl⟩
  have knows := (cu.knows i).stays stays
  refine cu.update (cu.files.add (fun _ _ => lookup_append) lookup_length lookup_last rfl)
    (cu.mappings.keep (fun _ _ e => e) rfl)
    (cu.owns.add old (by simp [Ledger.outline?]) new rfl) stays ?_ ?_
  · refine ⟨?_, knows.mapping, ?_, knows.seen⟩
    · intro f k e
      cases e
      exact Option.isSome_iff_exists.2 ⟨_, new⟩
    · intro k o e
      cases e
      exact .inl rfl
  · intro k o le e
    by_cases lt : k < l.outlines.length
    · exact cu.sane k o le ((List.getElem?_append_left lt).symm.trans e)
    · -- The new object has no size in its header yet.
      rw [Ledger.outline?, List.getElem?_append_right (Nat.le_of_not_lt lt)] at e
      obtain rfl : o = .blank := by
        have mem := List.mem_of_getElem? e
        simpa using mem
      exact Outline.isSane_of_size rfl

lemma openFile {k : ObjectId} (cu : Custodians torn b l σ) (here : (l.outline? k).isSome) :
    Custodians torn b { l with files := l.files ++ [some k] }
      (Function.update σ i
        { σ i with opened := some k, file := some (l.files.length, k) }) := by
  have stays : l.Stays { l with files := l.files ++ [some k] } := .of_outlines rfl
  have knows := (cu.knows i).stays stays
  refine cu.update (cu.files.add (fun _ _ => lookup_append) lookup_length lookup_last rfl)
    (cu.mappings.keep (fun _ _ e => e) rfl) (cu.owns.keep (fun _ _ e => e) rfl) stays ?_ cu.sane
  refine ⟨?_, knows.mapping, knows.own, knows.seen⟩
  intro f k' e
  cases e
  exact here

lemma close {f : FileId} {k : ObjectId} (cu : Custodians torn b l σ)
    (mine : (σ i).file = some (f, k)) :
    Custodians torn b { l with files := l.files.set f none }
      (Function.update σ i { σ i with file := none }) := by
  have stays : l.Stays { l with files := l.files.set f none } := .of_outlines rfl
  have knows := (cu.knows i).stays stays
  refine cu.update (cu.files.remove mine (fun _ => lookup_set) rfl)
    (cu.mappings.keep (fun _ _ e => e) rfl) (cu.owns.keep (fun _ _ e => e) rfl) stays ?_ cu.sane
  exact ⟨nofun, knows.mapping, knows.own, knows.seen⟩

lemma map {f : FileId} {k : ObjectId} (cu : Custodians torn b l σ) (mine : (σ i).file = some (f, k))
    (len : Nat) :
    Custodians torn b { l with mappings := l.mappings ++ [some ⟨k, len⟩] }
      (Function.update σ i { σ i with mapping := some (l.mappings.length, ⟨k, len⟩) }) := by
  have stays : l.Stays { l with mappings := l.mappings ++ [some ⟨k, len⟩] } := .of_outlines rfl
  have knows := (cu.knows i).stays stays
  refine cu.update (cu.files.keep (fun _ _ e => e) rfl)
    (cu.mappings.add (fun _ _ => lookup_append) lookup_length lookup_last rfl)
    (cu.owns.keep (fun _ _ e => e) rfl) stays ?_ cu.sane
  refine ⟨knows.file, ?_, knows.own, knows.seen⟩
  intro m x e
  cases e
  exact knows.file f k mine

/-- A party takes its mapping away. -/
lemma unmap {m : MappingId} {x : Mapping} (cu : Custodians torn b l σ)
    (mine : (σ i).mapping = some (m, x)) :
    Custodians torn b { l with mappings := l.mappings.set m none }
      (Function.update σ i { σ i with mapping := none }) := by
  have stays : l.Stays { l with mappings := l.mappings.set m none } := .of_outlines rfl
  have knows := (cu.knows i).stays stays
  refine cu.update (cu.files.keep (fun _ _ e => e) rfl)
    (cu.mappings.remove mine (fun _ => lookup_set) rfl) (cu.owns.keep (fun _ _ e => e) rfl) stays
    ?_ cu.sane
  exact ⟨knows.file, nofun, knows.own, knows.seen⟩

/-- A party reads the size of an object. -/
lemma see {k : ObjectId} {o : Outline} (cu : Custodians torn b l σ) (here : l.outline? k = some o) :
    Custodians torn b l (Function.update σ i { σ i with seen := some (k, o.size) }) := by
  have knows := cu.knows i
  refine cu.update (cu.files.keep (fun _ _ e => e) rfl) (cu.mappings.keep (fun _ _ e => e) rfl)
    (cu.owns.keep (fun _ _ e => e) rfl) (.of_outlines rfl) ?_ cu.sane
  refine ⟨knows.file, knows.mapping, knows.own, ?_⟩
  intro k' n e _
  cases e
  exact ⟨o, here, rfl⟩

/-- Who opens and reads nothing gains nothing. -/
lemma gains_nothing {c' : Custody} {r : Request} {a : r.Answer} (none : l.opens? r a = none)
    (opened : c'.opened = c.opened) (seen : c'.seen = c.seen) : c.Gains l r a c' := by
  refine ⟨?_, fun _ _ e => .inl (seen ▸ e)⟩
  rw [none, opened]
  rfl

lemma change_eq {m : MappingId} {k : ObjectId} {o : Outline} (under : l.under? m = some (k, o))
    (act : Outline → Outline) : l.change m act = l.setOutline k (act o) := by
  rw [Ledger.change, under]

section
variable {m : MappingId} {is : Outline → Prop} {a : Except Errno Unit}

/-- A party sets something up under its mapping, which cannot fail. -/
lemma setUp (cu : Custodians torn b l σ) (act : Outline → Outline) (makes : (σ i).Makes m is)
    (size : ∀ o, (act o).size = o.size) (sane : ∀ o, o.IsSane torn → (act o).IsSane torn)
    (st : (∃ e, a = .error e ∧ l.under? m = none ∧ l' = l) ∨ a = .ok () ∧ l' = l.change m act) :
    a = .ok () ∧ Custodians torn b l' (Function.update σ i ((σ i).become act)) := by
  obtain ⟨x, o, em, eo, -, here, under⟩ := cu.outline_of_makes makes
  rcases st with ⟨e, -, none, -⟩ | ⟨rfl, rfl⟩
  · rw [under] at none
    cases none
  · rw [change_eq under]
    exact ⟨rfl, cu.touch act eo (size o) (sane o)⟩

/-- A party takes something down under its mapping, or is told that this failed. -/
lemma takeDown (cu : Custodians torn b l σ) (act : Outline → Outline)
    (makes : (σ i).Makes m fun o => o.size = 0 ∨ torn) (size : ∀ o, (act o).size = o.size)
    (sane : ∀ o, (o.size = 0 ∨ torn) → o.IsSane torn → (act o).IsSane torn)
    (st : (∃ e, a = .error e ∧ l' = l) ∨ a = .ok () ∧ l' = l.change m act) :
    ∃ c', ((∃ e, a = .error e ∧ c' = σ i) ∨ a = .ok () ∧ c' = (σ i).become act) ∧
      Custodians torn b l' (Function.update σ i c') ∧ c'.opened = (σ i).opened ∧
      c'.seen = (σ i).seen := by
  obtain ⟨x, o, em, eo, ok, here, under⟩ := cu.outline_of_makes makes
  rcases st with ⟨e, rfl, rfl⟩ | ⟨rfl, rfl⟩
  · refine ⟨σ i, .inl ⟨e, rfl, rfl⟩, ?_, rfl, rfl⟩
    rwa [update_eq_self]
  · rw [change_eq under]
    exact ⟨_, .inr ⟨rfl, rfl⟩, cu.touch act eo (size o) (sane o ok), rfl, rfl⟩

end

/-- A party that keeps to the protocol goes on as it says with every answer, and leaves the custody
of all others as it is. -/
theorem answer {r : Request} {a : r.Answer} (cu : Custodians torn b l σ)
    (may : (σ i).Permits torn r) (st : l.Step r a l') :
    ∃ c', (σ i).Answers r a c' ∧ Custodians torn b l' (Function.update σ i c') ∧
      (σ i).Gains l r a c' := by
  have same : Custodians torn b l (Function.update σ i (σ i)) := by rwa [update_eq_self]
  cases r with
  | openNew n mode =>
    rcases st with ⟨e, rfl, rfl⟩ | ⟨rfl, rfl⟩
    · exact ⟨_, .inl ⟨e, rfl, rfl⟩, same, gains_nothing rfl rfl rfl⟩
    · exact ⟨_, .inr ⟨_, _, rfl, rfl⟩, cu.openNew.of_store _, rfl, fun _ _ e => .inl e⟩
  | openExisting n =>
    rcases st with ⟨e, rfl, rfl⟩ | ⟨k, o, bound, here, rfl, rfl⟩
    · exact ⟨_, .inl ⟨e, rfl, rfl⟩, same, gains_nothing rfl rfl rfl⟩
    · refine ⟨_, .inr ⟨_, k, rfl, rfl⟩, cu.openFile (by simp [here]), ?_, fun _ _ e => .inl e⟩
      simp [Ledger.opens?, bound]
  | unlink n =>
    rcases st with ⟨e, rfl, rfl⟩ | ⟨rfl, rfl⟩
    · exact ⟨_, rfl, same, gains_nothing rfl rfl rfl⟩
    · exact ⟨_, rfl, same.of_store _, gains_nothing rfl rfl rfl⟩
  | resize f len =>
    obtain ⟨k, o, ef, eo, zero, mutex, condition⟩ := may
    have here := cu.owns.known i _ _ eo
    have opened := cu.opened_of_file ef here
    rcases st with ⟨e, -, none, -⟩ | ⟨k', o', size, some, rfl, kept, rfl⟩
    · rw [opened] at none
      cases none
    · cases opened.symm.trans some
      -- Nothing has been set up yet, so that nothing is lost however short the object becomes.
      have eq : (⟨len, size, if min o.length len < Layout.mutexEnd then .blank else o.mutex,
          if min o.length len < Layout.headerSize then .blank else o.condition⟩ : Outline) =
            o.withLength len := by
        simp [Outline.withLength, kept zero, mutex, condition, zero]
      rw [eq]
      refine ⟨_, ⟨rfl, rfl⟩, cu.become (fun o => o.withLength len) eo (.inr rfl) (.inl zero) ?_,
        gains_nothing rfl rfl rfl⟩
      exact fun _ => Outline.isSane_of_size zero
  | length f =>
    obtain ⟨k, ef⟩ := may
    obtain ⟨o, here⟩ := Option.isSome_iff_exists.1 ((cu.knows i).file f k ef)
    have opened := cu.opened_of_file ef here
    obtain ⟨rfl, ⟨e, -, none⟩ | ⟨k', o', some, rfl⟩⟩ := st
    · rw [opened] at none
      cases none
    · exact ⟨_, ⟨_, rfl, rfl⟩, same, gains_nothing rfl rfl rfl⟩
  | close f =>
    obtain ⟨k, ef⟩ := may
    obtain rfl := st
    exact ⟨_, rfl, cu.close ef, gains_nothing rfl rfl rfl⟩
  | map f len =>
    obtain ⟨k, ef⟩ := may
    obtain ⟨o, here⟩ := Option.isSome_iff_exists.1 ((cu.knows i).file f k ef)
    have opened := cu.opened_of_file ef here
    rcases st with ⟨e, -, none, -⟩ | ⟨k', o', some, rfl, rfl⟩
    · rw [opened] at none
      cases none
    · cases opened.symm.trans some
      exact ⟨_, ⟨_, k, rfl, ef, rfl⟩, cu.map ef len, gains_nothing rfl rfl rfl⟩
  | unmap m =>
    obtain ⟨x, em⟩ := may
    obtain ⟨rfl, rfl⟩ := st
    exact ⟨_, ⟨rfl, rfl⟩, cu.unmap em, gains_nothing rfl rfl rfl⟩
  | loadSize m =>
    obtain ⟨x, em⟩ := may
    obtain ⟨o, here⟩ := Option.isSome_iff_exists.1 ((cu.knows i).mapping m x em)
    have known := cu.mappings.known i _ _ em
    have under : l.under? m = some (x.object, o) := by
      rw [Ledger.under?, known, Option.bind_some, here]
      rfl
    obtain ⟨rfl, rfl⟩ := st
    rw [under]
    refine ⟨_, ⟨x, em, rfl⟩, cu.see here, rfl, ?_⟩
    intro k n e
    cases e
    exact .inr ⟨⟨x, known, rfl⟩, o, here, rfl⟩
  | storeSize m n =>
    obtain ⟨aim, makes⟩ := may
    obtain ⟨x, o, em, eo, ⟨zero, length, mutex, condition⟩, here, under⟩ :=
      cu.outline_of_makes makes
    obtain rfl := st
    rw [change_eq under]
    refine ⟨_, rfl, cu.become (fun o => o.withSize n) eo (.inl zero) (.inr aim) ?_,
      gains_nothing rfl rfl rfl⟩
    exact fun _ => ⟨fun _ => length, fun _ => .inl mutex, fun _ => .inl condition⟩
  | write m off bs | clear m off len =>
    obtain rfl := st may
    exact ⟨_, rfl, same, gains_nothing rfl rfl rfl⟩
  | mutexInit m =>
    obtain ⟨rfl, custodians⟩ := cu.setUp (fun o => o.withMutex .live) may (fun _ => rfl)
      (fun o sane => ⟨sane.length, fun _ => .inl rfl, sane.condition⟩) st
    exact ⟨_, ⟨rfl, rfl⟩, custodians, gains_nothing rfl rfl rfl⟩
  | condInit m =>
    obtain ⟨rfl, custodians⟩ := cu.setUp (fun o => o.withCondition .live) may (fun _ => rfl)
      (fun o sane => ⟨sane.length, sane.mutex, fun _ => .inl rfl⟩) st
    exact ⟨_, ⟨rfl, rfl⟩, custodians, gains_nothing rfl rfl rfl⟩
  | mutexDestroy m =>
    obtain ⟨c', ans, custodians, opened, seen⟩ :=
      cu.takeDown (fun o => o.withMutex .destroyed) may (fun _ => rfl) (fun o ok sane =>
        ⟨sane.length, fun ne => .inr ⟨ok.resolve_left ne, rfl⟩, sane.condition⟩) st
    exact ⟨c', ans, custodians, gains_nothing rfl opened seen⟩
  | condDestroy m =>
    obtain ⟨c', ans, custodians, opened, seen⟩ :=
      cu.takeDown (fun o => o.withCondition .destroyed) may (fun _ => rfl) (fun o ok sane =>
        ⟨sane.length, sane.mutex, fun ne => .inr ⟨ok.resolve_left ne, rfl⟩⟩) st
    exact ⟨c', ans, custodians, gains_nothing rfl opened seen⟩
  | hold => cases may
  | _ =>
    obtain rfl := st
    exact ⟨_, rfl, same, gains_nothing rfl rfl rfl⟩

end Custodians
end SharedSegment
