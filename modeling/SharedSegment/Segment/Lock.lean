import SharedSegment.Segment

/-!
# Locking, waiting, notifying

What a handle does with the lock of its segment. Failures are recorded and never stop the caller; a
handle that holds nothing does nothing.
-/

namespace SharedSegment.Segment

/-- The status of an attempt to take the lock, recorded where it is worth it. -/
def settle (s : Segment) (died : Event) (r : Except SyncFailure LockStatus) :
    Program LockStatus :=
  match r with
  | .ok .ownerDied => do
    Program.log died
    return .ownerDied
  | .ok status => return status
  | .error f => do
    s.logSync f
    return .unavailable

/-- Records the failure of a step, if it failed. -/
def report (s : Segment) (r : Except SyncFailure Unit) : Program Unit :=
  match r with
  | .ok () => return ()
  | .error f => s.logSync f

/-- Takes the lock, as soon as it can be had. -/
def lock (s : Segment) : Program LockStatus :=
  match s.mapping with
  | none => return .unavailable
  | some m => do s.settle (.ownerDied s.name s.flavor) (← Header.lock m)

def unlock (s : Segment) : Program Unit :=
  match s.mapping with
  | none => return ()
  | some m => do s.report (← Header.unlock m)

/-- Gives the lock back until a notification, and takes it again. -/
def waitLocked (s : Segment) : Program LockStatus :=
  match s.mapping with
  | none => return .unavailable
  | some m => do s.settle (.ownerDiedInWait s.name s.flavor) (← Header.wait m)

/-- Takes the lock, waits for a notification, and gives the lock back, whatever the wait has come
to: one that fails keeps the lock. -/
def wait (s : Segment) : Program Unit := do
  if (← s.lock).isHeld then
    -- A wait that fails keeps the lock, so the lock is given back on every path.
    let _ ← s.waitLocked
    s.unlock
  else return ()

def notifyAll (s : Segment) : Program Unit :=
  match s.mapping with
  | none => return ()
  | some m => do s.report (← Header.broadcast m)

/-- Some bytes of the payload, as far as it goes. -/
def read (s : Segment) (off len : Nat) : Program (List UInt8) :=
  match s.mapping with
  | none => return []
  | some m =>
    Program.request (.read m (Layout.headerSize + off) (min len (s.size.toNat - off)))

/-- The bytes of the payload before the first zero. -/
def readText (s : Segment) : Program (List UInt8) :=
  match s.mapping with
  | none => return []
  | some m => Program.request (.readText m Layout.headerSize s.size.toNat)

/-- Writes bytes into the payload, as far as it goes, and tells how many were written. -/
def write (s : Segment) (off : Nat) (bs : List UInt8) : Program Nat :=
  match s.mapping with
  | none => return 0
  | some m => do
    let fitting := bs.take (s.size.toNat - off)
    Program.request (.write m (Layout.headerSize + off) fitting.toArray)
    return fitting.length

/-- Writes zeros into the payload from some place to its end. -/
def clearFrom (s : Segment) (off : Nat) : Program Unit :=
  match s.mapping with
  | none => return ()
  | some m => Program.request (.clear m (Layout.headerSize + off) (s.size.toNat - off))

end SharedSegment.Segment
