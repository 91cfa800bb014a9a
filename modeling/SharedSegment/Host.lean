import SharedSegment.Host.Object
import SharedSegment.Host.Request
import SharedSegment.Host.Store

/-!
# The host

The host has a store, memory objects, open files and mappings. An object lives on while nothing is
bound to it any more. `Host.step` answers one request of one thread, or makes the thread wait; a
thread that waits asks again later.
-/

namespace SharedSegment

/-- A mapping of the first bytes of an object. -/
structure Mapping where
  object : ObjectId
  length : Nat
deriving DecidableEq

/-- A host. Objects, files and mappings are numbered in the order in which they were made; what is
closed stays in the list as `none`. -/
structure Host where
  store : Store
  objects : List Object
  files : List (Option ObjectId)
  mappings : List (Option Mapping)

/-- What comes of a request. -/
inductive Reply (α : Type) where
  | done (answer : α) (host : Host)
  | wait (host : Host)

namespace Host

def empty : Host := ⟨.empty, [], [], []⟩

def object? (h : Host) (id : ObjectId) : Option Object :=
  h.objects[id]?

def file? (h : Host) (f : FileId) : Option ObjectId :=
  h.files[f]?.join

def mapping? (h : Host) (m : MappingId) : Option Mapping :=
  h.mappings[m]?.join

/-- The object under a mapping, and its number. -/
def under? (h : Host) (m : MappingId) : Option (ObjectId × Object) :=
  (h.mapping? m).bind fun x => (h.object? x.object).map (x.object, ·)

/-- A host with another state of an object. -/
def setObject (h : Host) (id : ObjectId) (o : Object) : Host :=
  { h with objects := h.objects.set id o }

/-- A host with one more open file. -/
def addFile (h : Host) (id : ObjectId) : Host :=
  { h with files := h.files ++ [some id] }

/-- Makes an object under a name that is bound to nothing. -/
def openNew (h : Host) (n : Name) (mode : UInt32) : Except Errno Nat × Host :=
  match h.store.place n with
  | .nested => (.error .einval, h)
  | .directory | .file (some _) => (.error .eexist, h)
  | .file none =>
    -- The number of the new object is the one that the list gives it.
    let id := h.objects.length
    (.ok h.files.length,
      { h with
        store := h.store.insert n.file (.object id)
        objects := h.objects ++ [Object.fresh mode] }.addFile id)

/-- Opens the object that a name is bound to, for reading and writing. -/
def openExisting (h : Host) (n : Name) : Except Errno Nat × Host :=
  match h.store.place n with
  | .nested | .directory | .file (some .directory) => (.error .einval, h)
  | .file none => (.error .enoent, h)
  | .file (some (.link _)) => (.error .eloop, h)
  | .file (some (.object id)) =>
    match h.object? id with
    | some o =>
      if o.isReadable && o.isWritable then (.ok h.files.length, h.addFile id)
      else (.error .eacces, h)
    | none => (.error .enoent, h)

/-- Takes the binding of a name away. -/
def unlink (h : Host) (n : Name) : Except Errno Unit × Host :=
  match h.store.place n with
  | .nested | .file none => (.error .enoent, h)
  | .directory => (.error .eisdir, h)
  | .file (some _) => (.ok (), { h with store := h.store.erase n.file })

/-- Something done to the object of an open file. -/
def onFile {α : Type} (h : Host) (f : FileId) (act : ObjectId → Object → α × Host) :
    Except Errno α × Host :=
  match (h.file? f).bind fun id => (h.object? id).map (id, ·) with
  | some (id, o) =>
    let (a, h) := act id o
    (.ok a, h)
  | none => (.error .einval, h)

/-- Something done to the object under a mapping. -/
def onObject (h : Host) (m : MappingId) (act : Object → Except Errno Unit × Object) :
    Except Errno Unit × Host :=
  match h.under? m with
  | some (id, o) =>
    let (a, o) := act o
    (a, h.setObject id o)
  | none => (.error .einval, h)

/-- A change of the object under a mapping. -/
def change (h : Host) (m : MappingId) (act : Object → Object) : Host :=
  match h.under? m with
  | some (id, o) => h.setObject id (act o)
  | none => h

/-- An attempt on the mutex under a mapping. -/
def onMutex (h : Host) (m : MappingId) (act : Mutex → Attempt Mutex) :
    Reply (Except Errno Unit) :=
  match h.under? m with
  | some (id, o) =>
    match act o.mutex with
    | .answer r x => .done r (h.setObject id { o with mutex := x })
    | .sleep x => .wait (h.setObject id { o with mutex := x })
  | none => .done (.error .einval) h

/-- An attempt on the condition under a mapping. -/
def onCondition (h : Host) (m : MappingId) (act : Condition → Attempt Condition) :
    Reply (Except Errno Unit) :=
  match h.under? m with
  | some (id, o) =>
    match act o.condition with
    | .answer r x => .done r (h.setObject id { o with condition := x })
    | .sleep x => .wait (h.setObject id { o with condition := x })
  | none => .done (.error .einval) h

/-- Gives the mutex back and parks, in one step. -/
def park (t : ThreadId) (o : Object) : Except Errno Unit × Object :=
  match o.mutex.unlock t with
  | (.ok (), x) => (.ok (), { o with mutex := x, condition := o.condition.park t })
  | (.error e, _) => (.error e, o)

/-- Whether a thread is parked on the condition under a mapping. -/
def isParked (h : Host) (m : MappingId) (t : ThreadId) : Bool :=
  (h.under? m).any fun x => x.2.condition.parked.contains t

def reply {α : Type} (r : α × Host) : Reply α :=
  .done r.1 r.2

def step (h : Host) (t : ThreadId) : (r : Request) → Reply r.Answer
  | .openNew n mode => reply (h.openNew n mode)
  | .openExisting n => reply (h.openExisting n)
  | .unlink n => reply (h.unlink n)
  | .resize f len =>
    reply (h.onFile f fun id o => ((), h.setObject id (o.resize len)))
  | .length f => reply (h.onFile f fun _ o => (o.length, h))
  | .close f => .done () { h with files := h.files.set f none }
  | .map f len =>
    reply (h.onFile f fun id _ =>
      (h.mappings.length, { h with mappings := h.mappings ++ [some ⟨id, len⟩] }))
  | .unmap m => .done (.ok ()) { h with mappings := h.mappings.set m none }
  | .pin _ => .done (.ok ()) h
  | .loadSize m => .done (α := UInt32) (((h.under? m).map fun x => x.2.sizeField).getD 0) h
  | .storeSize m n => .done () (h.change m fun o => o.setSizeField n)
  | .read m off len =>
    .done (α := List UInt8) (((h.under? m).map fun x => x.2.read off len).getD []) h
  | .readText m off len =>
    .done (α := List UInt8) (((h.under? m).map fun x => x.2.readText off len).getD []) h
  | .write m off bs => .done () (h.change m fun o => o.write off bs)
  | .clear m off len => .done () (h.change m fun o => o.clear off len)
  | .mutexattrInit => .done (.ok ()) h
  | .mutexattrSetpshared => .done (.ok ()) h
  | .mutexattrSetrobust => .done (.ok ()) h
  | .mutexattrSettype => .done (.ok ()) h
  | .mutexattrDestroy => .done (.ok ()) h
  | .mutexInit m => reply (h.onObject m fun o => (.ok (), { o with mutex := .fresh }))
  | .mutexDestroy m =>
    reply (h.onObject m fun o => let (a, x) := o.mutex.destroy; (a, { o with mutex := x }))
  | .lock m => h.onMutex m fun x => x.lock t
  | .unlock m =>
    reply (h.onObject m fun o => let (a, x) := o.mutex.unlock t; (a, { o with mutex := x }))
  | .makeConsistent m =>
    reply (h.onObject m fun o => let (a, x) := o.mutex.makeConsistent; (a, { o with mutex := x }))
  | .condattrInit => .done (.ok ()) h
  | .condattrSetclock => .done (.ok ()) h
  | .condattrSetpshared => .done (.ok ()) h
  | .condattrDestroy => .done (.ok ()) h
  | .condInit m => reply (h.onObject m fun o => (.ok (), { o with condition := .fresh }))
  | .condDestroy m => h.onCondition m Condition.destroy
  | .park m => reply (h.onObject m (park t))
  -- A thread that was woken still has to queue for the mutex.
  | .awake m => if h.isParked m t then .wait h else h.onMutex m fun x => x.lock t
  | .broadcast m =>
    reply (h.onObject m fun o => (.ok (), { o with condition := o.condition.broadcast }))
  | .hold _ => .wait h

/-- A thread dies: what it holds is abandoned, and it waits nowhere. -/
def bury (h : Host) (t : ThreadId) : Host :=
  { h with objects := h.objects.map fun o => o.bury t }

end Host
end SharedSegment
