import SharedSegment.Proofs.Tenure

/-!
# Requests on one object

What the requests of those who work with a segment come to, said through the object that its mapping
shows. `Host.sample` is a small host for examples of runs.
-/

namespace SharedSegment

/-- An object with another state of its mutex. -/
def Object.withMutex (o : Object) (x : Mutex) : Object := { o with mutex := x }

/-- An object with another state of its condition. -/
def Object.withCondition (o : Object) (c : Condition) : Object := { o with condition := c }

lemma Mutex.enqueue_hold {x : Mutex} {t : ThreadId} : (x.enqueue t).hold = x.hold := by
  unfold enqueue
  split <;> rfl

namespace Object

variable {o : Object} {x : Mutex} {c : Condition}

@[simp] lemma withMutex_mutex : (o.withMutex x).mutex = x := rfl
@[simp] lemma withMutex_condition : (o.withMutex x).condition = o.condition := rfl
@[simp] lemma withCondition_mutex : (o.withCondition c).mutex = o.mutex := rfl
@[simp] lemma withCondition_condition : (o.withCondition c).condition = c := rfl
@[simp] lemma withMutex_withMutex (y : Mutex) : (o.withMutex x).withMutex y = o.withMutex y := rfl
@[simp] lemma withMutex_self : o.withMutex o.mutex = o := rfl

@[simp] lemma write_withMutex (off : Nat) (bs : Array UInt8) :
    (o.withMutex x).write off bs = (o.write off bs).withMutex x := rfl

end Object

namespace Host

variable {h : Host} {m : MappingId} {k : ObjectId} {o : Object} {t : ThreadId}

/-- A mapping shows an object that is there. -/
lemma under?_eq_some_iff : h.under? m = some (k, o) ↔ h.shows m k ∧ h.object? k = some o := by
  unfold under? shows
  cases h.mapping? m with
  | none => simp
  | some x =>
    simp only [Option.bind_some, Option.map_eq_some_iff, Prod.mk.injEq, Option.any_some,
      beq_iff_eq]
    constructor
    · rintro ⟨o', eo, ek, rfl⟩
      exact ⟨ek, ek ▸ eo⟩
    · rintro ⟨rfl, eo⟩
      exact ⟨o, eo, rfl, rfl⟩

lemma object?_setObject_self {o' : Object} (e : h.object? k = some o) :
    (h.setObject k o').object? k = some o' := by
  obtain ⟨lt, _⟩ := List.getElem?_eq_some_iff.1 e
  exact List.getElem?_set_self lt

@[simp] lemma setObject_setObject (o' : Object) (o'' : Object) :
    (h.setObject k o').setObject k o'' = h.setObject k o'' := by
  simp [setObject]

lemma setObject_self (e : h.object? k = some o) : h.setObject k o = h := by
  obtain ⟨lt, eo⟩ := List.getElem?_eq_some_iff.1 e
  cases h
  simp only [setObject, Host.mk.injEq, true_and, and_true]
  exact eo ▸ List.set_getElem_self lt

/-- A mapping shows the new state of its object. -/
lemma under?_setObject {o' : Object} (sees : h.under? m = some (k, o)) :
    (h.setObject k o').under? m = some (k, o') := by
  obtain ⟨sh, eo⟩ := under?_eq_some_iff.1 sees
  exact under?_eq_some_iff.2 ⟨sh, object?_setObject_self eo⟩

section
-- The equations of a step are worked out here, before the lemmas that all wait for them.
attribute [local simp] step change
variable (sees : h.under? m = some (k, o))
include sees

lemma step_read (off len : Nat) :
    h.step t (.read m off len) = .done (α := List UInt8) (o.read off len) h := by
  simp only [step, sees]
  rfl

lemma step_write (off : Nat) (bs : Array UInt8) :
    h.step t (.write m off bs) = .done () (h.setObject k (o.write off bs)) := by
  simp [sees]

lemma step_lock :
    h.step t (.lock m) = match o.mutex.lock t with
      | .answer r x => .done r (h.setObject k (o.withMutex x))
      | .sleep x => .wait (h.setObject k (o.withMutex x)) := by
  simp only [step, onMutex, sees]
  rfl

lemma step_unlock :
    h.step t (.unlock m) =
      .done (o.mutex.unlock t).1 (h.setObject k (o.withMutex (o.mutex.unlock t).2)) := by
  simp only [step, onObject, reply, sees]
  rfl

lemma step_makeConsistent :
    h.step t (.makeConsistent m) =
      .done o.mutex.makeConsistent.1
        (h.setObject k (o.withMutex o.mutex.makeConsistent.2)) := by
  simp only [step, onObject, reply, sees]
  rfl

lemma step_park :
    h.step t (.park m) = .done (park t o).1 (h.setObject k (park t o).2) := by
  simp only [step, onObject, reply, sees]

lemma step_awake :
    h.step t (.awake m) =
      if o.condition.parked.contains t then .wait h
      else match o.mutex.lock t with
        | .answer r x => .done r (h.setObject k (o.withMutex x))
        | .sleep x => .wait (h.setObject k (o.withMutex x)) := by
  simp only [step, isParked, onMutex, sees, Option.any_some]
  rfl

lemma step_broadcast :
    h.step t (.broadcast m) =
      .done (α := Except Errno Unit) (.ok ())
        (h.setObject k (o.withCondition o.condition.broadcast)) := by
  simp only [step, onObject, reply, sees]
  rfl

end

end Host

/-- Whether a facade can be used and shows an object. -/
def Facade.isOn (f : Facade) (h : Host) (k : ObjectId) : Bool :=
  f.isValid && f.data.any fun m => h.shows m k

namespace Facade

variable {f : Facade} {h : Host} {k : ObjectId}

lemma isOn_iff : f.isOn h k ↔ f.isValid ∧ ∃ m, f.data = some m ∧ h.shows m k := by
  rw [isOn, Bool.and_eq_true_iff, Option.any_eq_true]

lemma isOn_inv (fon : f.isOn h k) :
    ∃ s m, f.segment = some s ∧ s.isValid ∧ s.mapping = some m ∧ h.shows m k := by
  obtain ⟨valid, m, em, sh⟩ := isOn_iff.1 fon
  obtain ⟨s, es, em⟩ := Option.bind_eq_some_iff.1 em
  refine ⟨s, m, es, ?_, em, sh⟩
  simpa [isValid, es] using valid

end Facade

namespace Host

/-- A host with one segment of eight bytes that two mappings show. -/
def sample : Host :=
  { store := .empty
    objects := [⟨Layout.headerSize + 8, fun _ => 0, 0, .fresh, .fresh⟩]
    files := [some 0, some 0]
    mappings := List.replicate 2 (some ⟨0, Layout.headerSize + 8⟩) }

end Host

/-- The name of a segment in examples. -/
def Name.sample : Name := ⟨['s'], by decide, by decide, by decide, by decide⟩

/-- A facade on one of the mappings of `Host.sample`. -/
def Facade.sample (m : MappingId) : Facade :=
  let s : Segment :=
    { name := .sample, flavor := .posix
      role := .attacher, size := 8, file := some m, mapping := some m, ownsSync := false }
  { name := "/s", size := 8, role := .attacher, flavor := .posix, segment := some s
    error := none }

/-- The segment of a creator in examples, with some file and some mapping. -/
def Segment.numbered (i : Nat) : Segment :=
  { name := .sample, flavor := .standard
    role := .creator, size := 8, file := some i, mapping := some i, ownsSync := true }

end SharedSegment
