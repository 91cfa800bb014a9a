import SharedSegment.Proofs.Stakes.Stake

/-!
# Hosts that answer alike

What comes of a request that goes through a number depends on what the host has under that number
only: on the object that is open or mapped there, and on no other object and no name. So two hosts
that agree on some numbers and on the objects behind them answer requests through these numbers
alike, and agree on them afterwards (`Host.AgreesOn.step`).
-/

namespace SharedSegment
open Function

/-- Two hosts agree on some numbers and on some objects, behind which the numbers lead. Numbers that
are given next are the same. -/
structure Host.AgreesOn (N : Number → Prop) (K : ObjectId → Prop) (h h' : Host) : Prop where
  files : ∀ f, N (.file f) → h'.file? f = h.file? f
  mappings : ∀ m, N (.mapping m) → h'.mapping? m = h.mapping? m
  objects : ∀ k, K k → h'.object? k = h.object? k
  opened : ∀ f k, N (.file f) → h.file? f = some k → K k
  mapped : ∀ m x, N (.mapping m) → h.mapping? m = some x → K x.object
  filesCount : h'.files.length = h.files.length
  mappingsCount : h'.mappings.length = h.mappings.length

/-- Two replies are the same but for the hosts that they leave. -/
inductive Reply.Like {α : Type} (R : Host → Host → Prop) : Reply α → Reply α → Prop where
  | done {a h h'} :
    R h h' →
    Like R (.done a h) (.done a h')
  | wait {h h'} :
    R h h' →
    Like R (.wait h) (.wait h')

/-- A program makes the same step on another host that replies alike. -/
lemma Program.Step.mirror {α : Type} {R : Host → Host → Prop} {t : ThreadId} {p p' : Program α}
    {h h' g : Host} {m : Move} (st : p.Step t h m p' h') (like : R h g)
    (replies : ∀ r next, p = .ask r next → (h.step t r).Like R (g.step t r)) :
    ∃ g', p.Step t g m p' g' ∧ R h' g' := by
  cases st with
  | tell => exact ⟨g, .tell, like⟩
  | strike er => exact ⟨g, .strike er, like⟩
  | @answer r next _ a _ eh =>
    have reply := replies r next rfl
    rw [eh] at reply
    cases reply' : g.step t r with
    | done a' g' =>
      rw [reply'] at reply
      cases reply with
      | done like' => exact ⟨g', .answer reply', like'⟩
    | wait g' =>
      rw [reply'] at reply
      cases reply
  | @wait r next _ _ eh =>
    have reply := replies r next rfl
    rw [eh] at reply
    cases reply' : g.step t r with
    | done a' g' =>
      rw [reply'] at reply
      cases reply
    | wait g' =>
      rw [reply'] at reply
      cases reply with
      | wait like' => exact ⟨g', .wait reply', like'⟩

namespace Host

variable {N : Number → Prop} {K : ObjectId → Prop} {h h' : Host} {t : ThreadId} {r : Request}
  {m : MappingId} {f : FileId}

lemma object?_set (h : Host) (k : ObjectId) (o : Object) (j : ObjectId) :
    (h.setObject k o).object? j = if k = j then (h.object? j).map fun _ => o else h.object? j :=
  List.getElem?_set'

lemma join_set {α : Type} (l : List (Option α)) (i j : Nat) :
    (l.set i none)[j]?.join = if i = j then none else l[j]?.join := by
  rw [List.getElem?_set']
  split
  · cases l[j]? <;> rfl
  · rfl

lemma join_append_alike {α : Type} {l l' : List (Option α)} {j : Nat} (x : Option α)
    (count : l'.length = l.length) (same : l'[j]?.join = l[j]?.join) :
    (l' ++ [x])[j]?.join = (l ++ [x])[j]?.join := by
  obtain lt | le := Nat.lt_or_ge j l.length
  · rw [List.getElem?_append_left lt, List.getElem?_append_left (count ▸ lt), same]
  · rw [List.getElem?_append_right le, List.getElem?_append_right (count ▸ le), count]

/-- Requests that go through a number change no name. -/
lemma store_step (through : r.through?.isSome) : (h.step t r).host.store = h.store := by
  cases tabled : r.isTabled with
  | false => exact (sameTables_step tabled).1
  | true =>
    cases r with
    | openNew | openExisting | unlink => cases through
    | close => rfl
    | unmap => rfl
    | map f len =>
      change (h.onFile f _).2.store = _
      unfold onFile
      split <;> rfl
    | _ => cases tabled

namespace AgreesOn

lemma under? (agrees : h.AgreesOn N K h') (known : N (.mapping m)) :
    h'.under? m = h.under? m := by
  unfold Host.under?
  rw [agrees.mappings m known]
  cases em : h.mapping? m with
  | none => rfl
  | some x => simp only [Option.bind_some, agrees.objects _ (agrees.mapped m x known em)]

lemma content? (agrees : h.AgreesOn N K h') (known : N (.file f)) :
    ((h'.file? f).bind fun k => (h'.object? k).map (k, ·)) =
      (h.file? f).bind fun k => (h.object? k).map (k, ·) := by
  rw [agrees.files f known]
  cases ef : h.file? f with
  | none => rfl
  | some k => simp only [Option.bind_some, agrees.objects _ (agrees.opened f k known ef)]

lemma setObject (agrees : h.AgreesOn N K h') (k : ObjectId) (o : Object) :
    (h.setObject k o).AgreesOn N K (h'.setObject k o) where
  files := agrees.files
  mappings := agrees.mappings
  objects j kept := by
    rw [object?_set, object?_set, agrees.objects j kept]
  opened := agrees.opened
  mapped := agrees.mapped
  filesCount := agrees.filesCount
  mappingsCount := agrees.mappingsCount

lemma close (agrees : h.AgreesOn N K h') (f : FileId) :
    AgreesOn N K { h with files := h.files.set f none }
      { h' with files := h'.files.set f none } where
  files f' known := by
    have same : h'.files[f']?.join = h.files[f']?.join := agrees.files f' known
    simp only [file?, join_set, same]
  mappings := agrees.mappings
  objects := agrees.objects
  opened f' k known opened := by
    simp only [file?, join_set] at opened
    split at opened
    · cases opened
    · exact agrees.opened f' k known opened
  mapped := agrees.mapped
  filesCount := by simpa using agrees.filesCount
  mappingsCount := agrees.mappingsCount

lemma unmap (agrees : h.AgreesOn N K h') (m : MappingId) :
    AgreesOn N K { h with mappings := h.mappings.set m none }
      { h' with mappings := h'.mappings.set m none } where
  files := agrees.files
  mappings m' known := by
    have same : h'.mappings[m']?.join = h.mappings[m']?.join := agrees.mappings m' known
    simp only [mapping?, join_set, same]
  objects := agrees.objects
  opened := agrees.opened
  mapped m' x known mapped := by
    simp only [mapping?, join_set] at mapped
    split at mapped
    · cases mapped
    · exact agrees.mapped m' x known mapped
  filesCount := agrees.filesCount
  mappingsCount := by simpa using agrees.mappingsCount

lemma map (agrees : h.AgreesOn N K h') {x : Mapping} (kept : K x.object) :
    AgreesOn N K { h with mappings := h.mappings ++ [some x] }
      { h' with mappings := h'.mappings ++ [some x] } where
  files := agrees.files
  mappings m known := join_append_alike (some x) agrees.mappingsCount (agrees.mappings m known)
  objects := agrees.objects
  opened := agrees.opened
  mapped m y known mapped := by
    obtain lt | le := Nat.lt_or_ge m h.mappings.length
    · rw [mapping?, List.getElem?_append_left lt] at mapped
      exact agrees.mapped m y known mapped
    · rw [mapping?, List.getElem?_append_right le] at mapped
      cases e : m - h.mappings.length with
      | zero =>
        rw [e] at mapped
        cases mapped
        exact kept
      | succ =>
        rw [e] at mapped
        cases mapped
  filesCount := agrees.filesCount
  mappingsCount := by simpa using agrees.mappingsCount

end AgreesOn

section
variable (agrees : h.AgreesOn N K h')
include agrees

lemma onObject_like (known : N (.mapping m)) (act : Object → Except Errno Unit × Object) :
    (reply (h.onObject m act)).Like (AgreesOn N K) (reply (h'.onObject m act)) := by
  unfold onObject
  rw [agrees.under? known]
  cases h.under? m with
  | none => exact .done agrees
  | some x => exact .done (agrees.setObject _ _)

lemma onMutex_like (known : N (.mapping m)) (act : Mutex → Attempt Mutex) :
    (h.onMutex m act).Like (AgreesOn N K) (h'.onMutex m act) := by
  unfold onMutex
  rw [agrees.under? known]
  cases h.under? m with
  | none => exact .done agrees
  | some x =>
    dsimp only
    cases act x.2.mutex with
    | answer => exact .done (agrees.setObject _ _)
    | sleep => exact .wait (agrees.setObject _ _)

lemma onCondition_like (known : N (.mapping m)) (act : Condition → Attempt Condition) :
    (h.onCondition m act).Like (AgreesOn N K) (h'.onCondition m act) := by
  unfold onCondition
  rw [agrees.under? known]
  cases h.under? m with
  | none => exact .done agrees
  | some x =>
    dsimp only
    cases act x.2.condition with
    | answer => exact .done (agrees.setObject _ _)
    | sleep => exact .wait (agrees.setObject _ _)

lemma change_agrees (known : N (.mapping m)) (act : Object → Object) :
    (h.change m act).AgreesOn N K (h'.change m act) := by
  unfold change
  rw [agrees.under? known]
  cases h.under? m with
  | none => exact agrees
  | some x => exact agrees.setObject _ _

/-- What is done to the object of an open file that both hosts know comes to the same. -/
lemma onFile_like {α : Type} {act act' : ObjectId → Object → α × Host} (known : N (.file f))
    (same : ∀ k o, K k → (act' k o).1 = (act k o).1 ∧ (act k o).2.AgreesOn N K (act' k o).2) :
    (reply (h.onFile f act)).Like (AgreesOn N K) (reply (h'.onFile f act')) := by
  unfold onFile
  rw [agrees.content? known]
  cases e : (h.file? f).bind fun k => (h.object? k).map (k, ·) with
  | none => exact .done agrees
  | some x =>
    obtain ⟨k, ek, e⟩ := Option.bind_eq_some_iff.1 e
    obtain ⟨o, -, rfl⟩ := Option.map_eq_some_iff.1 e
    obtain ⟨answers, like⟩ := same k o (agrees.opened f k known ek)
    simp only [reply, answers]
    exact .done like

end

/-- Hosts that agree on a number answer what goes through it alike, and go on to agree. -/
theorem AgreesOn.step (agrees : h.AgreesOn N K h') (t : ThreadId) {ν : Number}
    (through : r.through? = some ν) (known : N ν) :
    (h.step t r).Like (AgreesOn N K) (h'.step t r) := by
  cases r with
  | resize f len =>
    cases through
    exact onFile_like agrees known fun k o _ => ⟨rfl, agrees.setObject k _⟩
  | length f =>
    cases through
    exact onFile_like agrees known fun k o _ => ⟨rfl, agrees⟩
  | map f len =>
    cases through
    refine onFile_like agrees known fun k o kept => ⟨agrees.mappingsCount, agrees.map kept⟩
  | close f => exact .done (agrees.close f)
  | unmap m => exact .done (agrees.unmap m)
  | pin m => exact .done agrees
  | loadSize m | read m | readText m =>
    cases through
    simp only [Host.step, agrees.under? known]
    exact .done agrees
  | storeSize m | write m | clear m =>
    cases through
    exact .done (change_agrees agrees known _)
  | mutexInit m | mutexDestroy m | unlock m | makeConsistent m | condInit m | park m
  | broadcast m =>
    cases through
    exact onObject_like agrees known _
  | lock m =>
    cases through
    exact onMutex_like agrees known fun x => x.lock t
  | condDestroy m =>
    cases through
    exact onCondition_like agrees known _
  | awake m =>
    cases through
    have asleep : h'.isParked m t = h.isParked m t := by
      rw [isParked, isParked, agrees.under? known]
    simp only [Host.step, asleep]
    cases h.isParked m t with
    | true => exact .wait agrees
    | false => exact onMutex_like agrees known fun x => x.lock t
  | _ => cases through

/-- Two hosts have the same names and the same objects, and agree on some numbers. -/
structure IsLike (N : Number → Prop) (h h' : Host) : Prop extends
    h.AgreesOn N (fun _ => True) h' where
  store : h'.store = h.store

namespace IsLike

lemma refl (h : Host) : h.IsLike N h where
  files _ _ := rfl
  mappings _ _ := rfl
  objects _ _ := rfl
  opened _ _ _ _ := trivial
  mapped _ _ _ _ := trivial
  filesCount := rfl
  mappingsCount := rfl
  store := rfl

lemma objects_eq (like : h.IsLike N h') : h'.objects = h.objects :=
  List.ext_getElem? fun k => like.objects k trivial

lemma addFile (like : h.IsLike N h') (k : ObjectId) : (h.addFile k).IsLike N (h'.addFile k) where
  files f known := join_append_alike (some k) like.filesCount (like.files f known)
  mappings := like.mappings
  objects := like.objects
  opened _ _ _ _ := trivial
  mapped _ _ _ _ := trivial
  filesCount := by simpa [Host.addFile] using like.filesCount
  mappingsCount := like.mappingsCount
  store := like.store

lemma withStore (like : h.IsLike N h') (st : Store) (os : List Object) :
    IsLike N { h with store := st, objects := h.objects ++ os }
      { h' with store := st, objects := h'.objects ++ os } where
  files := like.files
  mappings := like.mappings
  objects k _ := by rw [object?, object?, like.objects_eq]
  opened _ _ _ _ := trivial
  mapped _ _ _ _ := trivial
  filesCount := like.filesCount
  mappingsCount := like.mappingsCount
  store := rfl

lemma openNew (like : h.IsLike N h') (n : Name) (mode : UInt32) :
    (reply (h.openNew n mode)).Like (IsLike N) (reply (h'.openNew n mode)) := by
  have count : h'.objects.length = h.objects.length := congrArg List.length like.objects_eq
  unfold Host.openNew
  rw [like.store]
  cases h.store.place n with
  | nested | directory => exact .done like
  | file bound =>
    cases bound with
    | some => exact .done like
    | none =>
      simp only [like.filesCount, count]
      exact .done ((like.withStore _ _).addFile _)

lemma openExisting (like : h.IsLike N h') (n : Name) :
    (reply (h.openExisting n)).Like (IsLike N) (reply (h'.openExisting n)) := by
  unfold Host.openExisting
  rw [like.store]
  cases h.store.place n with
  | nested | directory => exact .done like
  | file bound =>
    cases bound with
    | none => exact .done like
    | some b =>
      cases b with
      | directory | link => exact .done like
      | object k =>
        simp only [like.objects k trivial, like.filesCount]
        cases h.object? k with
        | none => exact .done like
        | some o =>
          dsimp only
          split
          · exact .done (like.addFile k)
          · exact .done like

lemma unlink (like : h.IsLike N h') (n : Name) :
    (reply (h.unlink n)).Like (IsLike N) (reply (h'.unlink n)) := by
  have erased (st : Store) : IsLike N { h with store := st } { h' with store := st } := by
    simpa using like.withStore st []
  unfold Host.unlink
  rw [like.store]
  cases h.store.place n with
  | nested | directory => exact .done like
  | file bound =>
    cases bound with
    | none => exact .done like
    | some b => exact .done (erased _)

/-- Hosts that differ in numbers only answer alike whatever does not go through these. -/
theorem step (like : h.IsLike N h') (t : ThreadId)
    (known : ∀ ν, r.through? = some ν → N ν) : (h.step t r).Like (IsLike N) (h'.step t r) := by
  cases through : r.through? with
  | some ν =>
    have some : r.through?.isSome := by simp [through]
    have agrees := like.toAgreesOn.step t through (known ν through)
    have stores : (h.step t r).host.store = (h'.step t r).host.store := by
      rw [store_step some, store_step some, like.store]
    generalize h.step t r = reply at agrees stores
    generalize h'.step t r = reply' at agrees stores
    cases agrees with
    | done agrees => exact .done ⟨agrees, stores.symm⟩
    | wait agrees => exact .wait ⟨agrees, stores.symm⟩
  | none =>
    cases r with
    | openNew n mode => exact like.openNew n mode
    | openExisting n => exact like.openExisting n
    | unlink n => exact like.unlink n
    | mutexattrInit | mutexattrSetpshared | mutexattrSetrobust | mutexattrSettype
    | mutexattrDestroy | condattrInit | condattrSetclock | condattrSetpshared
    | condattrDestroy => exact .done like
    | hold => exact .wait like
    | _ => cases through

lemma bury (like : h.IsLike N h') (t : ThreadId) : (h.bury t).IsLike N (h'.bury t) where
  files := like.files
  mappings := like.mappings
  objects k _ := by
    change (h'.objects.map _)[k]? = (h.objects.map _)[k]?
    rw [like.objects_eq]
  opened _ _ _ _ := trivial
  mapped _ _ _ _ := trivial
  filesCount := like.filesCount
  mappingsCount := like.mappingsCount
  store := like.store

end IsLike
end Host
end SharedSegment
