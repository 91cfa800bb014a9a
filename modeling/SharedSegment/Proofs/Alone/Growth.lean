import SharedSegment.Proofs.Requests

/-!
# Growing hosts

Opening a segment adds to a host: an object, a file and a mapping behind those that were there. A
host with additions is `Host.grown`; what a request that concerns an addition comes to is said here
once, so that the calls that open segments need not look into the host.
-/

namespace SharedSegment

namespace Store

variable {s : Store} {n : Name} {file file' : String} {b : Binding} {k : ObjectId}

lemma get?_erase_self (s : Store) (file : String) : (s.erase file).get? file = none := by
  refine List.lookup_eq_none_iff.2 ?_
  intro x mem
  have ne : x.1 ≠ file := bne_iff_ne.1 (List.mem_filter.1 mem).2
  exact bne_iff_ne.2 ne.symm

lemma lookup_filter_ne (l : List (String × Binding)) (ne : file' ≠ file) :
    (l.filter fun x => x.1 != file).lookup file' = l.lookup file' := by
  induction l with
  | nil => rfl
  | cons x l ih =>
    obtain ⟨key, b⟩ := x
    by_cases here : key = file
    · subst here
      have miss : (file' == key) = false := beq_eq_false_iff_ne.2 ne
      simp [miss, List.lookup_cons, ih]
    · simp [here, List.lookup_cons, ih]

lemma get?_erase_of_ne (ne : file' ≠ file) : (s.erase file).get? file' = s.get? file' :=
  lookup_filter_ne s.bindings ne

lemma get?_insert_self : (s.insert file b).get? file = some b := by
  simp [insert, get?]

lemma get?_insert_of_ne (ne : file' ≠ file) : (s.insert file b).get? file' = s.get? file' := by
  have miss : (file' == file) = false := by simpa using ne
  have other := get?_erase_of_ne (s := s) ne
  simp only [insert, get?, List.lookup_cons, miss]
  exact other

/-- What a name leads to, if it lies in the directory of the store. -/
lemma place_eq_file {o : Option Binding} (e : s.place n = .file o) :
    s.get? n.file = o ∧ o ≠ some .directory ∧ ∀ s' : Store,
      s'.get? n.file ≠ some .directory → s'.place n = .file (s'.get? n.file) := by
  unfold place at e
  split at e
  case isTrue => cases e
  case isFalse plain =>
    split at e
    case isTrue => cases e
    case isFalse proper =>
      split at e
      case h_1 => cases e
      case h_2 b ne =>
        cases e
        refine ⟨rfl, ne, ?_⟩
        intro s' ne'
        rw [place, if_neg plain, if_neg proper]
        split
        case h_1 e' => exact absurd e' ne'
        case h_2 => rfl

/-- Where a name leads depends only on what it is bound to. -/
lemma place_congr {s' : Store} (same : s'.get? n.file = s.get? n.file) :
    s'.place n = s.place n := by
  unfold place
  rw [same]

/-- A name that was free leads to the object that it is bound to. -/
lemma place_insert (free : s.place n = .file none) :
    (s.insert n.file (.object k)).place n = .file (some (.object k)) := by
  obtain ⟨-, -, leads⟩ := place_eq_file free
  have bound : (s.insert n.file (.object k)).get? n.file = some (.object k) := get?_insert_self
  have placed := leads (s.insert n.file (.object k)) (by simp [bound])
  rwa [bound] at placed

/-- A name that leads to a file leads to none after it was taken away. -/
lemma place_erase {o : Option Binding} (left : s.place n = .file o) :
    (s.erase n.file).place n = .file none := by
  obtain ⟨-, -, leads⟩ := place_eq_file left
  have gone := get?_erase_self s n.file
  have placed := leads (s.erase n.file) (by simp [gone])
  rwa [gone] at placed

end Store

namespace Host

variable {h : Host} {t : ThreadId} {f : FileId} {m : MappingId} {k : ObjectId} {o : Object}

/-- A host with another store, and with more objects, files and mappings. -/
def grown (h : Host) (store : Store) (objects : List Object) (files : List (Option ObjectId))
    (mappings : List (Option Mapping)) : Host :=
  ⟨store, h.objects ++ objects, h.files ++ files, h.mappings ++ mappings⟩

@[simp] lemma grown_nil : h.grown h.store [] [] [] = h := by
  simp [grown]

section
variable {st : Store} {os : List Object} {fs : List (Option ObjectId)}
  {ms : List (Option Mapping)} {id : Option ObjectId} {x : Option Mapping}

@[simp] lemma grown_store : (h.grown st os fs ms).store = st := rfl

lemma grown_mappings_length (h : Host) :
    (h.grown st os fs ms).mappings.length = h.mappings.length + ms.length := by
  simp [grown]

@[simp] lemma file?_grown : (h.grown st os (id :: fs) ms).file? h.files.length = id := by
  simp [grown, file?]

@[simp] lemma object?_grown : (h.grown st (o :: os) fs ms).object? h.objects.length = some o := by
  simp [grown, object?]

lemma mapping?_grown (h : Host) (st : Store) (os : List Object) (fs : List (Option ObjectId))
    (ms : List (Option Mapping)) (i : Nat) :
    (h.grown st os fs ms).mapping? (h.mappings.length + i) = ms[i]?.join := by
  simp [grown, mapping?, List.getElem?_append_right]

/-- The objects that were there still are. -/
lemma object?_grown_of_lt (lt : k < h.objects.length) :
    (h.grown st os fs ms).object? k = h.object? k :=
  List.getElem?_append_left lt

lemma object?_grown_of_some (here : h.object? k = some o) :
    (h.grown st os fs ms).object? k = some o := by
  obtain ⟨lt, -⟩ := List.getElem?_eq_some_iff.1 here
  rwa [object?_grown_of_lt lt]

/-- An entry that is `none` is as good as no entry. -/
lemma join_append {α : Type} {l l' : List (Option α)} (gone : ∀ x ∈ l', x = none) (i : Nat) :
    (l ++ l')[i]?.join = l[i]?.join := by
  by_cases lt : i < l.length
  · rw [List.getElem?_append_left lt]
  · have le := Nat.le_of_not_lt lt
    rw [List.getElem?_append_right le, List.getElem?_eq_none le]
    cases e : l'[i - l.length]? with
    | none => rfl
    | some x =>
      have none := gone x (List.mem_of_getElem? e)
      rw [none]
      rfl

/-- Files that were closed again are none. -/
lemma file?_grown_of_gone (gone : ∀ x ∈ fs, x = none) :
    (h.grown st os fs ms).file? f = h.file? f :=
  join_append gone f

lemma mapping?_grown_of_gone (gone : ∀ x ∈ ms, x = none) :
    (h.grown st os fs ms).mapping? m = h.mapping? m :=
  join_append gone m

lemma setObject_grown {o' : Object} :
    (h.grown st (o :: os) fs ms).setObject h.objects.length o' = h.grown st (o' :: os) fs ms := by
  simp [grown, setObject]

lemma close_grown :
    { h.grown st os (id :: fs) ms with
      files := (h.grown st os (id :: fs) ms).files.set h.files.length none } =
      h.grown st os (none :: fs) ms := by
  simp [grown]

end

/-- The host after a file was opened on an object. -/
lemma addFile_eq : h.addFile k = h.grown h.store [] [some k] [] := by
  simp [addFile, grown]

/-- An object is made under a name that is free. -/
lemma step_openNew {n : Name} {mode : UInt32} (free : h.store.place n = .file none) :
    h.step t (.openNew n mode) = .done (α := Except Errno Nat) (.ok h.files.length)
      (h.grown (h.store.insert n.file (.object h.objects.length)) [.fresh mode]
        [some h.objects.length] []) := by
  simp only [step, openNew, free, grown, List.append_nil]
  rfl

/-- No object is made under a name that is bound. -/
lemma step_openNew_of_bound {n : Name} {b : Binding} (bound : h.store.place n = .file (some b))
    (mode : UInt32) :
    h.step t (.openNew n mode) = .done (α := Except Errno Nat) (.error .eexist) h := by
  simp only [step, openNew, bound]
  rfl

lemma step_openNew_cases (h : Host) (t : ThreadId) (n : Name) (mode : UInt32) :
    (∃ e, h.step t (.openNew n mode) = .done (α := Except Errno Nat) (.error e) h) ∨
      h.store.place n = .file none := by
  cases ep : h.store.place n with
  | nested => exact .inl ⟨_, by simp only [step, openNew, ep]; rfl⟩
  | directory => exact .inl ⟨_, by simp only [step, openNew, ep]; rfl⟩
  | file bound =>
    cases bound with
    | none => exact .inr rfl
    | some b => exact .inl ⟨_, step_openNew_of_bound ep mode⟩

/-- A name is taken away from what it is bound to. -/
lemma step_unlink {n : Name} {b : Binding} (bound : h.store.place n = .file (some b)) :
    h.step t (.unlink n) = .done (α := Except Errno Unit) (.ok ())
      { h with store := h.store.erase n.file } := by
  simp only [step, unlink, bound]
  rfl

/-- A name that is free cannot be taken away. -/
lemma step_unlink_of_free {n : Name} (free : h.store.place n = .file none) :
    h.step t (.unlink n) = .done (α := Except Errno Unit) (.error .enoent) h := by
  simp only [step, unlink, free]
  rfl

lemma step_unlink_cases (h : Host) (t : ThreadId) (n : Name) :
    (∃ e, h.step t (.unlink n) = .done (α := Except Errno Unit) (.error e) h) ∨
      ∃ b, h.store.place n = .file (some b) := by
  cases ep : h.store.place n with
  | nested => exact .inl ⟨_, by simp only [step, unlink, ep]; rfl⟩
  | directory => exact .inl ⟨_, by simp only [step, unlink, ep]; rfl⟩
  | file bound =>
    cases bound with
    | none => exact .inl ⟨_, step_unlink_of_free ep⟩
    | some b => exact .inr ⟨b, rfl⟩

section
variable (open' : h.file? f = some k) (here : h.object? k = some o)
include open' here

lemma onFile_eq {α : Type} (act : ObjectId → Object → α × Host) :
    h.onFile f act = (.ok (act k o).1, (act k o).2) := by
  simp [onFile, open', here]

lemma step_resize (len : Nat) :
    h.step t (.resize f len) = .done (α := Except Errno Unit) (.ok ())
      (h.setObject k (o.resize len)) := by
  simp only [step, onFile_eq open' here]
  rfl

lemma step_length :
    h.step t (.length f) = .done (α := Except Errno Nat) (.ok o.length) h := by
  simp only [step, onFile_eq open' here]
  rfl

lemma step_map (len : Nat) :
    h.step t (.map f len) = .done (α := Except Errno Nat) (.ok h.mappings.length)
      { h with mappings := h.mappings ++ [some ⟨k, len⟩] } := by
  simp only [step, onFile_eq open' here]
  rfl

end

section
variable (sees : h.under? m = some (k, o))
include sees

lemma step_loadSize : h.step t (.loadSize m) = .done (α := UInt32) o.sizeField h := by
  simp only [step, sees]
  rfl

lemma step_storeSize (n : UInt32) :
    h.step t (.storeSize m n) = .done () (h.setObject k (o.setSizeField n)) := by
  simp [step, change, sees]

lemma step_mutexInit :
    h.step t (.mutexInit m) = .done (α := Except Errno Unit) (.ok ())
      (h.setObject k (o.withMutex .fresh)) := by
  simp only [step, onObject, reply, sees]
  rfl

lemma step_condInit :
    h.step t (.condInit m) = .done (α := Except Errno Unit) (.ok ())
      (h.setObject k (o.withCondition .fresh)) := by
  simp only [step, onObject, reply, sees]
  rfl

lemma step_mutexDestroy :
    h.step t (.mutexDestroy m) =
      .done o.mutex.destroy.1 (h.setObject k (o.withMutex o.mutex.destroy.2)) := by
  simp only [step, onObject, reply, sees]
  rfl

end

end Host
end SharedSegment
