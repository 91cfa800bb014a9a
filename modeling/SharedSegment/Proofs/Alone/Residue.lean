import SharedSegment.Proofs.Alone.Finding

/-!
# What failed openings leave behind

Whichever calls fail while a segment is opened: as long as none of those do that take away what was
made, an opening that ends with an error leaves no file, no mapping and no synchronization object of
its own (`failed_openings_leave_nothing_behind`). Attaching leaves the store as it is. Creating
leaves all names but its own as they are, and its own is bound to what it was bound to, or free.
-/

namespace SharedSegment
open Segment

/-- What was made on a host since is gone, and what was there is as it was. -/
structure Host.IsCleared (h h' : Host) : Prop where
  files : ∀ f, h'.file? f = h.file? f
  mappings : ∀ m, h'.mapping? m = h.mapping? m
  objects : ∀ k < h.objects.length, h'.object? k = h.object? k
  down : ∀ k o, h.objects.length ≤ k → h'.object? k = some o →
    o.mutex.life ≠ .live ∧ o.condition.life ≠ .live

/-- The calls that may fail while a segment is opened on a host: all but those that take something
away that was made. A name may be left where it is as long as no object was made under it. -/
def Host.LetsFail (h h' : Host) : Request → Prop
  | .unmap _ | .mutexDestroy _ | .condDestroy _ => False
  | .unlink _ => h'.objects.length = h.objects.length
  | _ => True

namespace Host

variable {h h' : Host} {st : Store} {os : List Object} {fs : List (Option ObjectId)}
  {ms : List (Option Mapping)}

lemma tidies_letsFail (h : Host) : h.Tidies h.LetsFail :=
  ⟨fun _ _ => id, fun _ _ => id, fun _ _ more same => Nat.ne_of_gt more same⟩

lemma isCleared_grown (files : ∀ x ∈ fs, x = none) (mappings : ∀ x ∈ ms, x = none)
    (down : ∀ o ∈ os, o.mutex.life ≠ .live ∧ o.condition.life ≠ .live) :
    h.IsCleared (h.grown st os fs ms) := by
  refine ⟨fun _ => file?_grown_of_gone files, fun _ => mapping?_grown_of_gone mappings,
    fun _ => object?_grown_of_lt, ?_⟩
  intro k o le here
  refine down o (List.mem_of_getElem? ((List.getElem?_append_right le).symm.trans here))

lemma isCleared_withStore : h.IsCleared { h with store := st } := by
  have cleared : h.IsCleared (h.grown st [] [] []) := isCleared_grown nofun nofun nofun
  simpa [grown] using cleared

end Host

/-- An opening that fails leaves nothing behind, whichever calls failed on the way, if no call did
that takes away what was made. -/
theorem failed_openings_leave_nothing_behind (t : ThreadId) (n : Name) (c : Config) (h h' : Host)
    (e : SegmentError) :
    ((attach n c).Ends t h.LetsFail h (.error e) h' →
      h'.store = h.store ∧ h'.objects = h.objects ∧ h.IsCleared h') ∧
    ∀ size, (create n size c).Ends t h.LetsFail h (.error e) h' →
      (∀ file ≠ n.file, h'.store.get? file = h.store.get? file) ∧
      (h'.store = h.store ∧ h'.objects = h.objects ∨ h'.store.get? n.file = none) ∧
      h.IsCleared h' := by
  have tidies := h.tidies_letsFail
  constructor
  · intro ends
    obtain ⟨fs, ms, rfl, ⟨-, files, mappings, -⟩ | ⟨k, o, x, -, -, -, er⟩⟩ :=
      (alone_attach n c).of_ends ends
    · exact ⟨rfl, List.append_nil _, Host.isCleared_grown files (mappings tidies) nofun⟩
    · cases er
  · intro size ends
    obtain ⟨st, freed, made⟩ := (alone_create n size c).of_ends ends
    have other {file : String} (ne : file ≠ n.file) : st.get? file = h.store.get? file := by
      obtain rfl | rfl := freed
      · rfl
      · exact Store.get?_erase_of_ne ne
    obtain ⟨-, rfl⟩ | ⟨-, ⟨er, -⟩ | ⟨-, st', o, ms, rfl, -, gone⟩⟩ := made
    · refine ⟨fun file ne => other ne, ?_, Host.isCleared_withStore⟩
      obtain rfl | rfl := freed
      · exact .inl ⟨rfl, rfl⟩
      · exact .inr (Store.get?_erase_self ..)
    · cases er
    · obtain ⟨rfl, mappings, mutex, condition⟩ := gone tidies
      refine ⟨?_, .inr (Store.get?_erase_self ..), ?_⟩
      · intro file ne
        rw [Host.grown_store, Store.get?_erase_of_ne ne, Store.get?_insert_of_ne ne, other ne]
      · exact Host.isCleared_grown (by simp) mappings (by simp [mutex, condition])

/-- A host on which one segment was created. -/
def Host.withSegment : Host :=
  ((create .sample 8 .standard).run 0 .none [] .empty).2

/-- Creating again without being able to set a condition up, and attaching without being able to map
the segment. -/
def Segment.failures : List Fault :=
  [⟨.condInit, 1, ⟨12⟩⟩, ⟨.mmap, 2, ⟨12⟩⟩]

/-- Creating again frees the name, makes an object and fails over its condition; it takes away what
it has made, while the first object stays. Attaching fails over its second mapping. -/
theorem failures_leave_nothing_behind :
    let h := Host.withSegment
    let faults := Faults.plan failures
    let created := ((create .sample 8 .standard).run 1 faults [] h).2
    let attached := ((attach .sample .standard).run 1 faults [] h).2
    (created.store.get? "s" = none ∧ created.objects.length = 2 ∧ h.IsCleared created) ∧
      attached.store = h.store ∧ attached.mappings.length = 2 ∧ h.IsCleared attached := by
  have spared : ∀ x ∈ failures, ∀ (h' : Host) (r : Request) fail, r.call? = some (x.call, fail) →
      Host.withSegment.LetsFail h' r := by
    intro x mem h' r fail ec
    simp only [failures, List.mem_cons, List.not_mem_nil, or_false] at mem
    cases r with
    | unmap | mutexDestroy | condDestroy | unlink =>
      obtain rfl | rfl := mem <;> cases ec
    | _ => trivial
  have creates : (create .sample 8 .standard).Ends 1 Host.withSegment.LetsFail Host.withSegment
      (.error (.syncInit "/s" "pthread_cond_init" (Errno.text ⟨12⟩))) _ :=
    .of_run (.plan failures) [] spared rfl
  have attaches : (attach .sample .standard).Ends 1 Host.withSegment.LetsFail Host.withSegment
      (.error (.acquire "/s" "map" (Errno.text ⟨12⟩))) _ :=
    .of_run (.plan failures) [] spared rfl
  obtain ⟨-, own, cleared⟩ :=
    (failed_openings_leave_nothing_behind 1 .sample .standard _ _ _).2 8 creates
  obtain ⟨same, -, cleared'⟩ :=
    (failed_openings_leave_nothing_behind 1 .sample .standard _ _ _).1 attaches
  refine ⟨⟨own.resolve_left ?_, rfl, cleared⟩, same, rfl, cleared'⟩
  rintro ⟨-, objects⟩
  cases congrArg List.length objects

end SharedSegment
