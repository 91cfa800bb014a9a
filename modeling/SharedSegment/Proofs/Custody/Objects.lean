import SharedSegment.Proofs.Custody.Custodians

/-!
# What becomes of an object

A request is about one object at most, and what it makes of that object depends on the object and on
the asking thread only (`Host.object_step`). What is left of an object by a request, and who owns
its mutex then, is read off from there.

Whoever keeps to the protocol of custodians sets up, publishes and takes down no object but its own,
and the object is as the protocol has it then (`Custodians.makes_own`).
-/

namespace SharedSegment

/-- The state of an object after an attempt. -/
def Attempt.object {α : Type} : Attempt α → α
  | .answer _ x | .sleep x => x

/-- What a request of a thread makes of the object that it is about. -/
def Request.remake (t : ThreadId) : Request → Object → Object
  | .resize _ len, o => o.resize len
  | .storeSize _ n, o => o.setSizeField n
  | .write _ off bs, o => o.write off bs
  | .clear _ off len, o => o.clear off len
  | .mutexInit _, o => o.withMutex .fresh
  | .mutexDestroy _, o => o.withMutex o.mutex.destroy.2
  | .lock _, o => o.withMutex (o.mutex.lock t).object
  | .unlock _, o => o.withMutex (o.mutex.unlock t).2
  | .makeConsistent _, o => o.withMutex o.mutex.makeConsistent.2
  | .condInit _, o => o.withCondition .fresh
  | .condDestroy _, o => o.withCondition o.condition.destroy.object
  | .park _, o => (Host.park t o).2
  | .awake _, o =>
    if o.condition.parked.contains t then o else o.withMutex (o.mutex.lock t).object
  | .broadcast _, o => o.withCondition o.condition.broadcast
  | _, o => o

/-- The mapping through which a request is about an object. -/
def Request.mapping? : Request → Option MappingId
  | .storeSize m _ | .write m .. | .clear m .. | .mutexInit m | .mutexDestroy m | .lock m
  | .unlock m | .makeConsistent m | .condInit m | .condDestroy m | .park m | .awake m
  | .broadcast m => some m
  | _ => none

namespace Host

/-- Whether a request is about an object. -/
def isAbout (h : Host) (k : ObjectId) : Request → Bool
  | .resize f _ => h.file? f == some k
  | r => r.mapping?.any fun m => h.shows m k

variable {h : Host} {t : ThreadId} {k : ObjectId} {o : Object} {m : MappingId}

/-- A mapping shows one object. -/
lemma shows_unique {k' : ObjectId} (shows : h.shows m k) (shows' : h.shows m k') : k = k' := by
  obtain ⟨x, ex, here⟩ := (Option.any_eq_true ..).1 shows
  obtain ⟨x', ex', here'⟩ := (Option.any_eq_true ..).1 shows'
  cases ex.symm.trans ex'
  exact (beq_iff_eq.1 here).symm.trans (beq_iff_eq.1 here')

lemma outline?_of_object (here : h.object? k = some o) :
    h.ledger.outline? k = some o.outline := by
  rw [ledger_outline?, here, Option.map_some]

lemma object?_append (here : h.object? k = some o) (os : List Object) :
    (h.objects ++ os)[k]? = some o := by
  obtain ⟨lt, -⟩ := List.getElem?_eq_some_iff.1 here
  rwa [List.getElem?_append_left lt]

lemma object?_setObject {k' : ObjectId} (here : h.object? k = some o) (o' : Object) :
    (h.setObject k' o').object? k = some (if k' = k then o' else o) := by
  by_cases ek : k' = k
  · subst ek
    rw [if_pos rfl]
    exact object?_setObject_self here
  · rw [if_neg ek]
    exact (List.getElem?_set_ne ek).trans here

/-- What is done under a mapping is done to the object that it shows. -/
lemma object?_under (here : h.object? k = some o) (act : Object → Object) {h' : Host}
    (shown : ∀ k' o', h.under? m = some (k', o') → h' = h.setObject k' (act o'))
    (blind : h.under? m = none → h' = h) :
    h'.object? k = some (if h.shows m k then act o else o) := by
  by_cases shows : h.shows m k
  · rw [if_pos shows, shown k o (under?_eq_some_iff.2 ⟨shows, here⟩)]
    exact object?_setObject_self here
  · rw [if_neg shows]
    cases sees : h.under? m with
    | none =>
      rw [blind sees]
      exact here
    | some x =>
      obtain ⟨k', o'⟩ := x
      have ne : k' ≠ k := by
        rintro rfl
        exact shows (under?_eq_some_iff.1 sees).1
      rw [shown k' o' sees, object?_setObject here, if_neg ne]

lemma object?_change (here : h.object? k = some o) (act : Object → Object) :
    (h.change m act).object? k = some (if h.shows m k then act o else o) := by
  refine object?_under here act ?_ ?_
  · intro k' o' sees
    rw [change, sees]
  · intro blind
    rw [change, blind]

lemma object?_onObject (here : h.object? k = some o)
    (act : Object → Except Errno Unit × Object) :
    (h.onObject m act).2.object? k = some (if h.shows m k then (act o).2 else o) := by
  refine object?_under here (fun o => (act o).2) ?_ ?_
  · intro k' o' sees
    rw [onObject, sees]
  · intro blind
    rw [onObject, blind]

lemma object?_onMutex (here : h.object? k = some o) (act : Mutex → Attempt Mutex) :
    (h.onMutex m act).host.object? k =
      some (if h.shows m k then o.withMutex (act o.mutex).object else o) := by
  refine object?_under here (fun o => o.withMutex (act o.mutex).object) ?_ ?_
  · intro k' o' sees
    rw [onMutex, sees]
    dsimp only
    cases act o'.mutex <;> rfl
  · intro blind
    rw [onMutex, blind]
    rfl

lemma object?_onCondition (here : h.object? k = some o) (act : Condition → Attempt Condition) :
    (h.onCondition m act).host.object? k =
      some (if h.shows m k then o.withCondition (act o.condition).object else o) := by
  refine object?_under here (fun o => o.withCondition (act o.condition).object) ?_ ?_
  · intro k' o' sees
    rw [onCondition, sees]
    dsimp only
    cases act o'.condition <;> rfl
  · intro blind
    rw [onCondition, blind]
    rfl

lemma object?_openNew (here : h.object? k = some o) (n : Name) (mode : UInt32) :
    (h.openNew n mode).2.object? k = some o := by
  unfold openNew
  split
  case h_4 => exact object?_append here _
  all_goals exact here

lemma object?_openExisting (here : h.object? k = some o) (n : Name) :
    (h.openExisting n).2.object? k = some o := by
  unfold openExisting
  split
  case h_6 =>
    split
    · split <;> exact here
    · exact here
  all_goals exact here

lemma object?_unlink (here : h.object? k = some o) (n : Name) :
    (h.unlink n).2.object? k = some o := by
  unfold unlink
  split <;> exact here

lemma object?_onFile {α : Type} {f : FileId} {act : ObjectId → Object → α × Host}
    (here : h.object? k = some o) (same : ∀ id o, (act id o).2.objects = h.objects) :
    (h.onFile f act).2.object? k = some o := by
  unfold onFile
  split
  · exact (congrArg (·[k]?) (same _ _)).trans here
  · exact here

lemma object?_resize (here : h.object? k = some o) (f : FileId) (len : Nat) :
    (h.onFile f fun id o => ((), h.setObject id (o.resize len))).2.object? k =
      some (if h.file? f == some k then o.resize len else o) := by
  unfold onFile
  cases ef : h.file? f with
  | none => exact here
  | some k' =>
    cases eo : h.object? k' with
    | none =>
      have ne : k' ≠ k := by
        rintro rfl
        cases eo.symm.trans here
      simp [eo, ne, here]
    | some o' =>
      simp only [Option.bind_some, eo, Option.map_some, beq_iff_eq, Option.some.injEq]
      rw [object?_setObject here]
      by_cases ek : k' = k
      · subst ek
        cases eo.symm.trans here
        rfl
      · rw [if_neg ek, if_neg ek]

lemma object?_lock (here : h.object? k = some o) :
    (h.step t (.lock m)).host.object? k =
      some (if h.shows m k then Request.remake t (.lock m) o else o) :=
  object?_onMutex here fun x => x.lock t

lemma object?_awake (here : h.object? k = some o) :
    (h.step t (.awake m)).host.object? k =
      some (if h.shows m k then Request.remake t (.awake m) o else o) := by
  by_cases shows : h.shows m k
  · have sees := under?_eq_some_iff.2 ⟨shows, here⟩
    have asleep : h.isParked m t = o.condition.parked.contains t := by
      rw [isParked, sees, Option.any_some]
    simp only [step, asleep, Request.remake, if_pos shows]
    cases o.condition.parked.contains t with
    | true => exact here
    | false => exact (object?_lock here).trans (congrArg some (if_pos shows))
  · rw [if_neg shows]
    simp only [step]
    cases h.isParked m t with
    | true => exact here
    | false => exact (object?_lock here).trans (congrArg some (if_neg shows))

/-- What a request makes of an object: of the one that it is about something, and nothing of any
other. -/
theorem object_step (here : h.object? k = some o) (t : ThreadId) (r : Request) :
    (h.step t r).host.object? k = some (if h.isAbout k r then r.remake t o else o) := by
  cases r with
  | openNew n mode => exact object?_openNew here n mode
  | openExisting n => exact object?_openExisting here n
  | unlink n => exact object?_unlink here n
  | resize f len => exact object?_resize here f len
  | length f => exact object?_onFile here fun _ _ => rfl
  | map f len => exact object?_onFile here fun _ _ => rfl
  | storeSize | write | clear => exact object?_change here _
  | mutexInit | mutexDestroy | unlock | makeConsistent | condInit | park | broadcast =>
    exact object?_onObject here _
  | lock m => exact object?_lock here
  | awake m => exact object?_awake here
  | condDestroy m => exact object?_onCondition here _
  | _ => exact here

lemma object?_bury (here : h.object? k = some o) (t : ThreadId) :
    (h.bury t).object? k = some (o.bury t) := by
  change (h.objects.map _)[k]? = _
  rw [List.getElem?_map]
  exact congrArg (Option.map _) here

end Host

namespace Custodians

variable {ι : Type} {torn : Prop} {b : ObjectId} {h : Host} {σ : ι → Custody} {i : ι}
  {k : ObjectId} {o : Object}

/-- Whoever makes something of an object makes it of its own one. -/
lemma makes_own {m : MappingId} {is : Outline → Prop} (cu : Custodians torn b h.ledger σ)
    (makes : (σ i).Makes m is) (here : h.object? k = some o) (shows : h.shows m k) :
    is o.outline := by
  obtain ⟨x, y, em, eo, ok⟩ := makes
  obtain ⟨x', ex, shown⟩ := (Option.any_eq_true ..).1 shows
  have mapped : h.mapping? m = some x := cu.mappings.known i _ _ em
  cases mapped.symm.trans ex
  obtain rfl := beq_iff_eq.1 shown
  cases (cu.owns.known i _ _ eo).symm.trans (Host.outline?_of_object here)
  exact ok

/-- Whoever sets the length of an object sets that of its own one, of which nothing is set up. -/
lemma resizes_own {f : FileId} {len : Nat} (cu : Custodians torn b h.ledger σ)
    (may : (σ i).Permits torn (.resize f len)) (here : h.object? k = some o)
    (opens : h.file? f = some k) :
    o.sizeField = 0 ∧ o.mutex.life = .blank ∧ o.condition.life = .blank := by
  obtain ⟨k', y, ef, eo, zero, mutex, condition⟩ := may
  have opened : h.file? f = some k' := cu.files.known i _ _ ef
  cases opened.symm.trans opens
  cases (cu.owns.known i _ _ eo).symm.trans (Host.outline?_of_object here)
  exact ⟨zero, mutex, condition⟩

end Custodians
end SharedSegment
