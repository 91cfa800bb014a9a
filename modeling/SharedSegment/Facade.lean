import SharedSegment.Segment.Lock
import SharedSegment.Segment.Open

/-!
# Facades

A facade is opened under a raw name: a positive size creates the segment, zero attaches to it.
Opening never fails; a facade without a segment carries the reason and does nothing.
`Facade.tryOpen` gives the reason instead.
-/

namespace SharedSegment

/-- A segment as its users see it. -/
structure Facade where
  /-- The name, or the raw text that is none. -/
  name : String
  /-- The payload size; of a facade without a segment, the size that was asked for. -/
  size : UInt32
  role : Role
  flavor : Flavor
  segment : Option Segment
  error : Option SegmentError
deriving DecidableEq

namespace Facade

/-- Opens a segment in the role that the size asks for. -/
def connect (raw : String) (size : UInt32) (c : Config) :
    Program (Except SegmentError Segment) :=
  match Name.ofRaw raw with
  | .error f => return .error (.invalidName raw f.reason)
  | .ok n =>
    match c.validate with
    | .error f => return .error (.invalidConfig n.text f)
    | .ok () =>
      match Role.ofSize size with
      | .creator => Segment.create n size c
      | .attacher => Segment.attach n c

def ofSegment (size : UInt32) (c : Config) (s : Segment) : Facade :=
  { name := s.name.text, size := s.size, role := .ofSize size, flavor := c.flavor
    segment := some s, error := none }

def ofError (size : UInt32) (c : Config) (e : SegmentError) : Facade :=
  { name := e.name, size, role := .ofSize size, flavor := c.flavor
    segment := none, error := some e }

def openWith (raw : String) (size : UInt32) (c : Config) : Program Facade := do
  match ← connect raw size c with
  | .ok s => return ofSegment size c s
  | .error e =>
    Program.log (.unavailable e.name (.ofSize size) c.flavor e)
    return ofError size c e

/-- Opens a facade, or tells why it has no segment. -/
def tryOpen (raw : String) (size : UInt32) (c : Config) :
    Program (Except SegmentError Facade) := do
  match ← connect raw size c with
  | .ok s => return .ok (ofSegment size c s)
  | .error e => return .error e

/-- Whether a facade has a segment that can be used. -/
def isValid (f : Facade) : Bool :=
  f.segment.any Segment.isValid

/-- The mapping that a facade's payload lies in. -/
def data (f : Facade) : Option MappingId :=
  f.segment.bind Segment.mapping

/-- Something done with the segment of a facade. -/
def onSegment {α : Type} (f : Facade) (otherwise : α) (act : Segment → Program α) : Program α :=
  match f.segment with
  | some s => act s
  | none => return otherwise

theorem onSegment_eq {α : Type} {f : Facade} {s : Segment} (es : f.segment = some s) (otherwise : α)
    (act : Segment → Program α) : f.onSegment otherwise act = act s := by
  rw [onSegment, es]

def lock (f : Facade) : Program LockStatus :=
  f.onSegment .unavailable Segment.lock

def unlock (f : Facade) : Program Unit :=
  f.onSegment () Segment.unlock

def wait (f : Facade) : Program Unit :=
  f.onSegment () Segment.wait

def notifyAll (f : Facade) : Program Unit :=
  f.onSegment () Segment.notifyAll

/-- Takes the lock for a guard. Without the lock there is no guard. -/
def guard (f : Facade) : Program (Option LockStatus) := do
  let status ← f.lock
  return if status.isHeld then some status else none

/-- Waits for a notification under a guard of some status; the new status of the guard. -/
def guardWait (f : Facade) (status : LockStatus) : Program LockStatus :=
  f.onSegment status Segment.waitLocked

/-- Some bytes of the payload, as far as it goes. -/
def read (f : Facade) (off len : Nat) : Program (List UInt8) :=
  if f.isValid then f.onSegment [] fun s => s.read off len else return []

/-- The bytes of the payload before the first zero. -/
def readText (f : Facade) : Program (List UInt8) :=
  if f.isValid then f.onSegment [] Segment.readText else return []

/-- Writes bytes into the payload, as far as it goes, and tells how many were written. -/
def write (f : Facade) (off : Nat) (bs : List UInt8) : Program Nat :=
  if f.isValid then f.onSegment 0 fun s => s.write off bs else return 0

/-- Writes zeros into the payload from some place to its end. -/
def clearFrom (f : Facade) (off : Nat) : Program Unit :=
  if f.isValid then f.onSegment () fun s => s.clearFrom off else return ()

def drop (f : Facade) : Program Unit :=
  f.onSegment () fun s => do
    let _ ← s.destroy
    return ()

def diagnostic (f : Facade) : String :=
  Diagnostic.record "SharedMemory"
    [("name", Diagnostic.text f.name), ("size", toString f.size), ("role", f.role.diagnostic),
      ("flavor", f.flavor.diagnostic), ("valid", if f.isValid then "true" else "false"),
      ("error", match f.error with
        | some e => Diagnostic.wrapped "Some" e.diagnostic
        | none => "None")]

end Facade
end SharedSegment
