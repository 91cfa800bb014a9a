import SharedSegment.Host.Object
import SharedSegment.LockStatus
import SharedSegment.Program

/-!
# The header of a segment

A segment begins with its payload size and the objects that synchronize its users. `Header.prepare`
sets them up and publishes the size last, so that who reads a size that is not zero finds them
ready. Taking the lock from a dead owner makes the mutex consistent at once.
-/

namespace SharedSegment

/-- A call on the synchronization objects that failed. -/
structure SyncFailure where
  call : Call
  errno : Errno
deriving DecidableEq

namespace Header

/-- The length of a segment in bytes. -/
def total (size : UInt32) : Nat :=
  Layout.headerSize + size.toNat

/-- Calls whose failure ends what they are part of. -/
abbrev Steps := ExceptT SyncFailure Program

/-- A call whose failure ends what it is part of. -/
def checked (c : Call) (p : Program (Except Errno Unit)) : Steps Unit :=
  ExceptT.mk do
    match ← p with
    | .ok () => return .ok ()
    | .error e => return .error ⟨c, e⟩

/-- Sets the mutex up: shared between processes, aware of dying owners, not recursive. -/
def prepareMutex (m : MappingId) : Steps Unit := do
  checked .mutexattrSetpshared (Program.request .mutexattrSetpshared)
  checked .mutexattrSetrobust (Program.request .mutexattrSetrobust)
  checked .mutexattrSettype (Program.request .mutexattrSettype)
  checked .mutexInit (Program.request (.mutexInit m))

/-- Sets the condition up: shared between processes. -/
def prepareCondition (m : MappingId) : Steps Unit := do
  checked .condattrSetclock (Program.request .condattrSetclock)
  checked .condattrSetpshared (Program.request .condattrSetpshared)
  checked .condInit (Program.request (.condInit m))

/-- Sets the mutex up, with the attributes it needs for that. -/
def withMutexAttributes (m : MappingId) : Program (Except SyncFailure Unit) := do
  match ← (checked .mutexattrInit (Program.request .mutexattrInit)).run with
  | .error f => return .error f
  | .ok () =>
    let r ← (prepareMutex m).run
    -- The attributes are not needed any more, whether the mutex stands or not. What comes of giving
    -- them up changes nothing.
    let _ ← Program.request .mutexattrDestroy
    return r

/-- Sets the condition up, with the attributes it needs for that. -/
def withConditionAttributes (m : MappingId) : Program (Except SyncFailure Unit) := do
  match ← (checked .condattrInit (Program.request .condattrInit)).run with
  | .error f => return .error f
  | .ok () =>
    let r ← (prepareCondition m).run
    let _ ← Program.request .condattrDestroy
    return r

/-- Sets both objects up and publishes the size; a mutex without its condition is taken down. -/
def prepare (m : MappingId) (size : UInt32) : Program (Except SyncFailure Unit) := do
  match ← withMutexAttributes m with
  | .error f => return .error f
  | .ok () =>
    match ← withConditionAttributes m with
    | .error f =>
      let _ ← Program.request (.mutexDestroy m)
      return .error f
    | .ok () =>
      -- Whoever reads a size that is not zero finds both objects ready.
      Program.request (.storeSize m size)
      return .ok ()

/-- What the answer to taking the mutex means. -/
def acquired (m : MappingId) (c : Call) (r : Except Errno Unit) :
    Program (Except SyncFailure LockStatus) :=
  match r with
  | .ok () => return .ok .acquired
  | .error e =>
    if e = .eownerdead then do
      Program.logFailure (← Program.request (.makeConsistent m)) .stillInconsistent
      return .ok .ownerDied
    else return .error ⟨c, e⟩

def lock (m : MappingId) : Program (Except SyncFailure LockStatus) := do
  acquired m .mutexLock (← Program.request (.lock m))

def unlock (m : MappingId) : Program (Except SyncFailure Unit) :=
  (checked .mutexUnlock (Program.request (.unlock m))).run

/-- Gives the mutex back until a broadcast, and takes it again. -/
def wait (m : MappingId) : Program (Except SyncFailure LockStatus) := do
  match ← Program.request (.park m) with
  | .error e => acquired m .condWait (.error e)
  | .ok () => acquired m .condWait (← Program.request (.awake m))

def broadcast (m : MappingId) : Program (Except SyncFailure Unit) :=
  (checked .condBroadcast (Program.request (.broadcast m))).run

/-- The failure of a step, if it failed. -/
def failure? : Except SyncFailure Unit → Option SyncFailure
  | .ok () => none
  | .error f => some f

/-- Wakes all who wait and takes both objects down. Every step is tried. -/
def destroy (m : MappingId) : Program (List SyncFailure) := do
  let woken ← broadcast m
  let condition ← (checked .condDestroy (Program.request (.condDestroy m))).run
  let mutex ← (checked .mutexDestroy (Program.request (.mutexDestroy m))).run
  return [woken, condition, mutex].filterMap failure?

end Header
end SharedSegment
