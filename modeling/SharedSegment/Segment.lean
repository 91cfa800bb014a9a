import SharedSegment.Header

/-!
# Segments

A handle on a segment: what it is called, how it came about, and what it still holds of the host. A
handle is valid while it holds its file and its mapping.
-/

namespace SharedSegment

/-- A handle on a segment. -/
structure Segment where
  name : Name
  flavor : Flavor
  role : Role
  /-- The payload size. -/
  size : UInt32
  file : Option FileId
  mapping : Option MappingId
  /-- Whether this handle has set up synchronization objects that it has to take down. -/
  ownsSync : Bool
deriving DecidableEq

namespace Segment

def isValid (s : Segment) : Bool :=
  s.file.isSome && s.mapping.isSome && s.size > 0

/-- Records that a call on the synchronization objects failed. -/
def logSync (s : Segment) (f : SyncFailure) : Program Unit :=
  Program.log (.syncFailed s.name s.flavor f.call f.errno)

/-- Takes down what the handle has set up, and tells of what failed. -/
def destroySync (s : Segment) : Program Unit :=
  match s.mapping with
  | some m =>
    if s.role = .creator ∧ s.ownsSync then do
      let failures ← Header.destroy m
      failures.forM s.logSync
    else return ()
  | none => return ()

def unmap (s : Segment) : Program Unit :=
  match s.mapping with
  | some m => do
    Program.logFailure (← Program.request (.unmap m)) (.unmapFailed s.name s.flavor)
  | none => return ()

/-- Takes the name away. That it is gone already is no failure. -/
def unlink (s : Segment) : Program Unit := do
  match ← Program.request (.unlink s.name) with
  | .ok () => return ()
  | .error e =>
    if e = .enoent then return () else Program.log (.unlinkFailed s.name s.flavor e)

/-- Closes the file; a creator takes the name away. -/
def release (s : Segment) : Program Unit :=
  match s.file with
  | some f => do
    Program.request (.close f)
    if s.role = .creator then s.unlink
    Program.log (.released s.name s.flavor s.role)
  | none => return ()

/-- A handle that holds nothing any more. -/
def empty (s : Segment) : Segment :=
  { s with file := none, mapping := none, ownsSync := s.ownsSync && s.role ≠ .creator }

/-- Tears a handle down as its role asks. A second time nothing is left to do. -/
def destroy (s : Segment) : Program Segment := do
  s.destroySync
  s.unmap
  s.release
  return s.empty

end Segment
end SharedSegment
