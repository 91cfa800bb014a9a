import SharedSegment.Proofs.Custody.Outline
import SharedSegment.Proofs.Requests

/-!
# Ledgers

A ledger is a host with outlines in the place of objects. `Ledger.Step` says what every request does
to a ledger, and `Host.ledger_step` that hosts do just that; a request that has to wait, a call that
fails by itself and the death of a thread leave the ledger as it is. Whatever is proved of the life
of a segment is proved of ledgers.
-/

namespace SharedSegment

/-- A host of which only outlines of objects are known. -/
structure Ledger where
  store : Store
  outlines : List Outline
  files : List (Option ObjectId)
  mappings : List (Option Mapping)

def Host.ledger (h : Host) : Ledger :=
  ⟨h.store, h.objects.map Object.outline, h.files, h.mappings⟩

namespace Ledger

def outline? (l : Ledger) (k : ObjectId) : Option Outline :=
  l.outlines[k]?

/-- The object of an open file. -/
def file? (l : Ledger) (f : FileId) : Option ObjectId :=
  l.files[f]?.join

def mapping? (l : Ledger) (m : MappingId) : Option Mapping :=
  l.mappings[m]?.join

/-- The object that a name is bound to. -/
def bound? (l : Ledger) (n : Name) : Option ObjectId :=
  match l.store.place n with
  | .file (some (.object k)) => some k
  | _ => none

/-- The object of an open file, with its outline. -/
def opened? (l : Ledger) (f : FileId) : Option (ObjectId × Outline) :=
  (l.file? f).bind fun k => (l.outline? k).map (k, ·)

/-- The object under a mapping, with its outline. -/
def under? (l : Ledger) (m : MappingId) : Option (ObjectId × Outline) :=
  (l.mapping? m).bind fun x => (l.outline? x.object).map (x.object, ·)

/-- A ledger with another outline of an object. -/
def setOutline (l : Ledger) (k : ObjectId) (o : Outline) : Ledger :=
  { l with outlines := l.outlines.set k o }

/-- A change of the object under a mapping. -/
def change (l : Ledger) (m : MappingId) (act : Outline → Outline) : Ledger :=
  match l.under? m with
  | some (k, o) => l.setOutline k (act o)
  | none => l

lemma outline?_setOutline_self {l : Ledger} {k : ObjectId} {o : Outline} (o' : Outline)
    (here : l.outline? k = some o) : (l.setOutline k o').outline? k = some o' := by
  obtain ⟨lt, _⟩ := List.getElem?_eq_some_iff.1 here
  exact List.getElem?_set_self lt

lemma change_id (l : Ledger) (m : MappingId) : (l.change m fun o => o) = l := by
  unfold change
  split
  case h_2 => rfl
  case h_1 k o sees =>
    obtain ⟨x, _, eo⟩ := Option.bind_eq_some_iff.1 sees
    obtain ⟨o', eo, ep⟩ := Option.map_eq_some_iff.1 eo
    cases ep
    obtain ⟨lt, eo⟩ := List.getElem?_eq_some_iff.1 eo
    obtain ⟨store, outlines, files, mappings⟩ := l
    simp only [setOutline, Ledger.mk.injEq, true_and, and_true]
    exact eo ▸ List.set_getElem_self lt

/-- What an answered request does to a ledger. -/
def Step (l : Ledger) : (r : Request) → r.Answer → Ledger → Prop
  | .openNew n _, a, l' =>
    (∃ e, a = .error e ∧ l' = l) ∨
    a = .ok l.files.length ∧
      l' = ⟨l.store.insert n.file (.object l.outlines.length), l.outlines ++ [.blank],
        l.files ++ [some l.outlines.length], l.mappings⟩
  | .openExisting n, a, l' =>
    (∃ e, a = .error e ∧ l' = l) ∨
    ∃ k o, l.bound? n = some k ∧ l.outline? k = some o ∧ a = .ok l.files.length ∧
      l' = { l with files := l.files ++ [some k] }
  | .unlink n, a, l' =>
    (∃ e, a = .error e ∧ l' = l) ∨
    a = .ok () ∧ l' = { l with store := l.store.erase n.file }
  | .resize f len, a, l' =>
    (∃ e, a = .error e ∧ l.opened? f = none ∧ l' = l) ∨
    ∃ k o size, l.opened? f = some (k, o) ∧ a = .ok () ∧ (o.size = 0 → size = 0) ∧
      l' = l.setOutline k
        ⟨len, size, if min o.length len < Layout.mutexEnd then .blank else o.mutex,
          if min o.length len < Layout.headerSize then .blank else o.condition⟩
  | .length f, a, l' =>
    l' = l ∧ ((∃ e, a = .error e ∧ l.opened? f = none) ∨
      ∃ k o, l.opened? f = some (k, o) ∧ a = .ok o.length)
  | .close f, _, l' => l' = { l with files := l.files.set f none }
  | .map f len, a, l' =>
    (∃ e, a = .error e ∧ l.opened? f = none ∧ l' = l) ∨
    ∃ k o, l.opened? f = some (k, o) ∧ a = .ok l.mappings.length ∧
      l' = { l with mappings := l.mappings ++ [some ⟨k, len⟩] }
  | .unmap m, a, l' => a = .ok () ∧ l' = { l with mappings := l.mappings.set m none }
  | .loadSize m, a, l' => l' = l ∧ a = ((l.under? m).map fun x => x.2.size).getD 0
  | .storeSize m n, _, l' => l' = l.change m fun o => o.withSize n
  | .write _ off _, _, l' | .clear _ off _, _, l' => 4 ≤ off → l' = l
  | .mutexInit m, a, l' =>
    (∃ e, a = .error e ∧ l.under? m = none ∧ l' = l) ∨
    a = .ok () ∧ l' = l.change m fun o => o.withMutex .live
  | .mutexDestroy m, a, l' =>
    (∃ e, a = .error e ∧ l' = l) ∨
    a = .ok () ∧ l' = l.change m fun o => o.withMutex .destroyed
  | .condInit m, a, l' =>
    (∃ e, a = .error e ∧ l.under? m = none ∧ l' = l) ∨
    a = .ok () ∧ l' = l.change m fun o => o.withCondition .live
  | .condDestroy m, a, l' =>
    (∃ e, a = .error e ∧ l' = l) ∨
    a = .ok () ∧ l' = l.change m fun o => o.withCondition .destroyed
  | _, _, l' => l' = l

end Ledger

namespace Object

variable {o : Object} {x : Mutex} {c : Condition}

lemma outline_withMutex (e : x.life = o.mutex.life) : (o.withMutex x).outline = o.outline := by
  simp only [outline, withMutex_mutex, e]
  rfl

lemma outline_withCondition (e : c.life = o.condition.life) :
    (o.withCondition c).outline = o.outline := by
  simp only [outline, withCondition_condition, e]
  rfl

lemma outline_park (t : ThreadId) : (Host.park t o).2.outline = o.outline := by
  have life := o.mutex.unlock_life (t := t)
  unfold Host.park
  split
  case h_1 x e =>
    rw [e] at life
    change x.life = _ at life
    simp only [outline, life]
    rfl
  case h_2 => rfl

lemma outline_bury (t : ThreadId) : (o.bury t).outline = o.outline := rfl

lemma outline_resize (len : Nat) : ∃ size, (o.outline.size = 0 → size = 0) ∧
    (o.resize len).outline =
      ⟨len, size, if min o.length len < Layout.mutexEnd then .blank else o.mutex.life,
        if min o.length len < Layout.headerSize then .blank else o.condition.life⟩ := by
  refine ⟨(o.resize len).sizeField, sizeField_resize len, ?_⟩
  simp only [outline, resize]
  congr 1
  · split <;> rfl
  · split <;> rfl

end Object

/-- The host that a reply leaves. -/
def Reply.host {α : Type} : Reply α → Host
  | .done _ h | .wait h => h

namespace Host

variable {h h' : Host} {m : MappingId} {f : FileId} {k : ObjectId} {o o' : Object} {t : ThreadId}

lemma ledger_outline? : h.ledger.outline? k = (h.object? k).map Object.outline :=
  List.getElem?_map ..

lemma ledger_under? : h.ledger.under? m = (h.under? m).map fun x => (x.1, x.2.outline) := by
  change (h.mapping? m).bind _ = ((h.mapping? m).bind _).map _
  cases h.mapping? m with
  | none => rfl
  | some x => simp [ledger_outline?, Function.comp_def]

lemma ledger_opened? : h.ledger.opened? f =
    ((h.file? f).bind fun k => (h.object? k).map (k, ·)).map fun x => (x.1, x.2.outline) := by
  change (h.file? f).bind _ = ((h.file? f).bind _).map _
  cases h.file? f with
  | none => rfl
  | some x => simp [ledger_outline?, Function.comp_def]

lemma ledger_setObject (o' : Object) :
    (h.setObject k o').ledger = h.ledger.setOutline k o'.outline := by
  simp [ledger, setObject, Ledger.setOutline, List.map_set]

/-- An object that keeps its outline changes no ledger. -/
lemma ledger_keep (here : h.object? k = some o) (e : o'.outline = o.outline) :
    (h.setObject k o').ledger = h.ledger := by
  have same : (h.setObject k o).ledger = h.ledger := by rw [setObject_self here]
  rwa [ledger_setObject, e, ← ledger_setObject]

/-- A change of the object under a mapping is one in the ledger. -/
lemma ledger_change (sees : h.under? m = some (k, o)) {act : Outline → Outline}
    (e : o'.outline = act o.outline) : (h.setObject k o').ledger = h.ledger.change m act := by
  unfold Ledger.change
  rw [ledger_under?, sees, ledger_setObject, e]
  rfl

lemma ledger_change_none (blind : h.under? m = none) (act : Outline → Outline) :
    h.ledger.change m act = h.ledger := by
  unfold Ledger.change
  rw [ledger_under?, blind]
  rfl

/-- What is done to an object without its outline changing. -/
lemma ledger_onObject {act : Object → Except Errno Unit × Object}
    (keep : ∀ o, (act o).2.outline = o.outline) : (h.onObject m act).2.ledger = h.ledger := by
  unfold onObject
  split
  case h_1 k o sees => exact ledger_keep (under?_eq_some_iff.1 sees).2 (keep o)
  case h_2 => rfl

lemma ledger_lock : (h.step t (.lock m)).host.ledger = h.ledger := by
  change (h.onMutex m fun x => x.lock t).host.ledger = h.ledger
  unfold onMutex
  split
  case h_1 k o sees =>
    have here := (under?_eq_some_iff.1 sees).2
    split
    case h_1 r x e => exact ledger_keep here (Object.outline_withMutex (Mutex.lock_life e))
    case h_2 x e => exact ledger_keep here (Object.outline_withMutex (Mutex.lock_sleep_life e))
  case h_2 => rfl

lemma ledger_awake : (h.step t (.awake m)).host.ledger = h.ledger := by
  by_cases parked : h.isParked m t
  · simp only [step, parked]
    rfl
  · simp only [step, parked]
    exact ledger_lock

/-- A file that is not open, or open on nothing, is so in the ledger. -/
lemma onFile_cases {α : Type} (h : Host) (f : FileId) (act : ObjectId → Object → α × Host) :
    (h.ledger.opened? f = none ∧ h.onFile f act = (.error .einval, h)) ∨
      ∃ k o, h.object? k = some o ∧ h.ledger.opened? f = some (k, o.outline) ∧
        h.onFile f act = (.ok (act k o).1, (act k o).2) := by
  rw [ledger_opened?]
  unfold onFile
  split
  case h_1 k o e =>
    obtain ⟨k', ek, eo⟩ := Option.bind_eq_some_iff.1 e
    obtain ⟨o', eo, ep⟩ := Option.map_eq_some_iff.1 eo
    cases ep
    exact .inr ⟨k, o, eo, by simp [e], rfl⟩
  case h_2 e => exact .inl ⟨by simp [e], rfl⟩

lemma ledger_openNew (n : Name) (mode : UInt32) :
    h.ledger.Step (.openNew n mode) (h.openNew n mode).1 (h.openNew n mode).2.ledger := by
  unfold openNew
  split
  · exact .inl ⟨_, rfl, rfl⟩
  · exact .inl ⟨_, rfl, rfl⟩
  · exact .inl ⟨_, rfl, rfl⟩
  · refine .inr ⟨rfl, ?_⟩
    simp [ledger, addFile, Object.fresh, Object.outline, Outline.blank, Object.sizeField,
      Mutex.blank, Condition.blank]

lemma ledger_openExisting (n : Name) :
    h.ledger.Step (.openExisting n) (h.openExisting n).1 (h.openExisting n).2.ledger := by
  unfold openExisting
  split
  case h_6 k ep =>
    cases eo : h.object? k with
    | none => exact .inl ⟨_, rfl, rfl⟩
    | some o =>
      by_cases may : (o.isReadable && o.isWritable) = true
      · refine .inr ⟨k, o.outline, ?_, ?_, ?_, ?_⟩
        · change (match h.store.place n with | .file (some (.object k)) => some k | _ => none) = _
          rw [ep]
        · rw [ledger_outline?, eo]
          rfl
        · simp only [may]
          rfl
        · simp only [may]
          rfl
      · simp only [may]
        exact .inl ⟨_, rfl, rfl⟩
  all_goals exact .inl ⟨_, rfl, rfl⟩

lemma ledger_unlink (n : Name) :
    h.ledger.Step (.unlink n) (h.unlink n).1 (h.unlink n).2.ledger := by
  unfold unlink
  split
  · exact .inl ⟨_, rfl, rfl⟩
  · exact .inl ⟨_, rfl, rfl⟩
  · exact .inl ⟨_, rfl, rfl⟩
  · exact .inr ⟨rfl, rfl⟩

/-- A change of the object under a mapping, if there is one. -/
lemma ledger_changed {act : Object → Object} {act' : Outline → Outline}
    (e : ∀ o, (act o).outline = act' o.outline) :
    (h.change m act).ledger = h.ledger.change m act' := by
  unfold change
  split
  case h_1 k o sees => exact ledger_change sees (e o)
  case h_2 blind => rw [ledger_change_none blind]

/-- What is done to the object under a mapping, if there is one. -/
lemma onObject_cases (h : Host) (m : MappingId) (act : Object → Except Errno Unit × Object) :
    (h.under? m = none ∧ h.onObject m act = (.error .einval, h)) ∨
      ∃ k o, h.under? m = some (k, o) ∧
        h.onObject m act = ((act o).1, h.setObject k (act o).2) := by
  unfold onObject
  split
  case h_1 k o sees => exact .inr ⟨k, o, sees, rfl⟩
  case h_2 blind => exact .inl ⟨blind, rfl⟩

/-- Setting something up under a mapping cannot fail. -/
lemma ledger_setUp (m : MappingId) {set : Object → Object} {act : Outline → Outline}
    (e : ∀ o, (set o).outline = act o.outline) :
    let done := h.onObject m fun o => (.ok (), set o)
    (∃ e, done.1 = .error e ∧ h.ledger.under? m = none ∧ done.2.ledger = h.ledger) ∨
      done.1 = .ok () ∧ done.2.ledger = h.ledger.change m act := by
  intro done
  rcases h.onObject_cases m fun o => (.ok (), set o) with ⟨blind, eq⟩ | ⟨k, o, sees, eq⟩
  · have none : h.ledger.under? m = none := by
      rw [ledger_under?, blind]
      rfl
    exact .inl ⟨.einval, congrArg Prod.fst eq, none, congrArg (ledger ∘ Prod.snd) eq⟩
  · have changed : done.2.ledger = (h.setObject k (set o)).ledger :=
      congrArg (ledger ∘ Prod.snd) eq
    exact .inr ⟨congrArg Prod.fst eq, changed.trans (ledger_change sees (e o))⟩

lemma ledger_mutexDestroy (m : MappingId) (act : Object → Except Errno Unit × Object)
    (e : ∀ o, act o = (o.mutex.destroy.1, o.withMutex o.mutex.destroy.2)) :
    h.ledger.Step (.mutexDestroy m) (h.onObject m act).1 (h.onObject m act).2.ledger := by
  rcases h.onObject_cases m act with ⟨-, eq⟩ | ⟨k, o, sees, eq⟩
  · rw [eq]
    exact .inl ⟨_, rfl, rfl⟩
  · rw [eq, e]
    by_cases busy : o.mutex.life = .blank ∧ o.mutex.hold ≠ .free
    · rw [Mutex.destroy, if_pos busy]
      refine .inl ⟨_, rfl, ledger_keep (under?_eq_some_iff.1 sees).2 rfl⟩
    · rw [Mutex.destroy, if_neg busy]
      exact .inr ⟨rfl, ledger_change sees rfl⟩

lemma ledger_condDestroy {m : MappingId} {a : Except Errno Unit}
    (e : h.onCondition m Condition.destroy = .done a h') :
    h.ledger.Step (.condDestroy m) a h'.ledger := by
  unfold onCondition at e
  split at e
  case h_2 =>
    cases e
    exact .inl ⟨_, rfl, rfl⟩
  case h_1 k o sees =>
    by_cases empty : o.condition.parked.isEmpty
    · simp only [Condition.destroy, empty, if_true] at e
      cases e
      exact .inr ⟨rfl, ledger_change sees rfl⟩
    · simp only [Condition.destroy, empty] at e
      cases e

theorem ledger_step {r : Request} {a : r.Answer} (e : h.step t r = .done a h') :
    h.ledger.Step r a h'.ledger := by
  cases r with
  | openNew n mode =>
    cases e
    exact ledger_openNew n mode
  | openExisting n =>
    cases e
    exact ledger_openExisting n
  | unlink n =>
    cases e
    exact ledger_unlink n
  | resize f len =>
    cases e
    rcases h.onFile_cases f fun k o => ((), h.setObject k (o.resize len)) with
      ⟨none, eq⟩ | ⟨k, o, here, some, eq⟩
    · exact .inl ⟨_, congrArg Prod.fst eq, none, congrArg (ledger ∘ Prod.snd) eq⟩
    · obtain ⟨size, zero, eo⟩ := o.outline_resize len
      refine .inr ⟨k, o.outline, size, some, congrArg Prod.fst eq, zero, ?_⟩
      refine (congrArg (ledger ∘ Prod.snd) eq).trans ?_
      exact (ledger_setObject _).trans (congrArg _ eo)
  | length f =>
    cases e
    rcases h.onFile_cases f fun _ o => (o.length, h) with ⟨none, eq⟩ | ⟨k, o, here, some, eq⟩
    · exact ⟨congrArg (ledger ∘ Prod.snd) eq, .inl ⟨_, congrArg Prod.fst eq, none⟩⟩
    · exact ⟨congrArg (ledger ∘ Prod.snd) eq, .inr ⟨k, _, some, congrArg Prod.fst eq⟩⟩
  | map f len =>
    cases e
    rcases h.onFile_cases f fun k _ =>
        (h.mappings.length, { h with mappings := h.mappings ++ [.some ⟨k, len⟩] }) with
      ⟨none, eq⟩ | ⟨k, o, here, some, eq⟩
    · exact .inl ⟨_, congrArg Prod.fst eq, none, congrArg (ledger ∘ Prod.snd) eq⟩
    · exact .inr ⟨k, _, some, congrArg Prod.fst eq, congrArg (ledger ∘ Prod.snd) eq⟩
  | unmap m =>
    cases e
    exact ⟨rfl, rfl⟩
  | loadSize m =>
    cases e
    refine ⟨rfl, ?_⟩
    rw [ledger_under?, Option.map_map]
    rfl
  | storeSize m n =>
    cases e
    refine ledger_changed fun o => ?_
    simp only [Object.outline, Object.sizeField_setSizeField]
    rfl
  | write m off bs =>
    cases e
    intro le
    refine (ledger_changed fun o => ?_).trans (Ledger.change_id h.ledger m)
    simp only [Object.outline, Object.sizeField_write bs le]
    rfl
  | clear m off len =>
    cases e
    intro le
    refine (ledger_changed fun o => ?_).trans (Ledger.change_id h.ledger m)
    simp only [Object.outline, Object.sizeField_clear len le]
    rfl
  | mutexInit m =>
    cases e
    exact ledger_setUp m fun _ => rfl
  | mutexDestroy m =>
    cases e
    exact ledger_mutexDestroy m _ fun _ => rfl
  | condInit m =>
    cases e
    exact ledger_setUp m fun _ => rfl
  | condDestroy m => exact ledger_condDestroy e
  | lock m =>
    have keep := ledger_lock (h := h) (m := m) (t := t)
    rwa [e] at keep
  | awake m =>
    have keep := ledger_awake (h := h) (m := m) (t := t)
    rwa [e] at keep
  | unlock m =>
    cases e
    exact ledger_onObject fun o => Object.outline_withMutex o.mutex.unlock_life
  | makeConsistent m =>
    cases e
    exact ledger_onObject fun o => Object.outline_withMutex o.mutex.makeConsistent_life
  | park m =>
    cases e
    exact ledger_onObject fun o => Object.outline_park t
  | broadcast m =>
    cases e
    exact ledger_onObject fun o => Object.outline_withCondition rfl
  | hold => cases e
  | _ =>
    cases e
    rfl

/-- Having to wait changes no ledger. -/
theorem ledger_wait {r : Request} (e : h.step t r = .wait h') : h'.ledger = h.ledger := by
  cases r with
  | lock m =>
    have keep := ledger_lock (h := h) (m := m) (t := t)
    rwa [e] at keep
  | awake m =>
    have keep := ledger_awake (h := h) (m := m) (t := t)
    rwa [e] at keep
  | condDestroy m =>
    change h.onCondition m Condition.destroy = .wait h' at e
    unfold onCondition at e
    split at e
    case h_2 => cases e
    case h_1 k o sees =>
      by_cases empty : o.condition.parked.isEmpty
      · simp only [Condition.destroy, empty, if_true] at e
        cases e
      · simp only [Condition.destroy, empty] at e
        cases e
        exact ledger_keep (under?_eq_some_iff.1 sees).2 rfl
  | hold =>
    cases e
    rfl
  | _ => cases e

theorem ledger_bury : (h.bury t).ledger = h.ledger := by
  simp [ledger, bury, Function.comp_def, Object.outline_bury]

end Host
end SharedSegment
