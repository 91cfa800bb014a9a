import SharedSegment.Command.Ending
import SharedSegment.Facade
import SharedSegment.Text.Utf8

/-!
# What the commands do

Each command opens a segment, does its work and lets the segment go, also where the work fails.
Writing replaces the whole payload: the text as far as it fits, then zeros. Reading shows the
payload up to its first zero byte.
-/

namespace SharedSegment.Command

/-- The work of a command, which a complaint may end. -/
abbrev Work := Program (Except Complaint Unit)

/-- Whether a creator waits for an interrupt alone. -/
def announceHold (seconds : Option Nat) : Program Unit :=
  if seconds.isNone then Program.line "  Press Ctrl-C to remove it" else return ()

/-- Holds a segment for some seconds, or until an interrupt. No time at all is not waited for. -/
def hold (seconds : Option Nat) : Program Unit := do
  announceHold seconds
  if seconds = some 0 then return () else Program.request (.hold seconds)

/-- Creates a segment, holds it, and removes it. -/
def createWork (raw : String) (size : UInt32) (seconds : Option Nat) (c : Config) : Work := do
  if size = 0 then
    return .error ⟨"Size must be greater than 0 to create a segment", []⟩
  else
    match ← Facade.tryOpen raw size c with
    | .error e =>
      return .error (.ofSegmentError ("Failed to create shared memory '" ++ raw ++ "'") e)
    | .ok f =>
      Program.line ("✓ Created segment " ++ f.name)
      Program.line ("  Size:    " ++ toString f.size ++ " bytes")
      Program.line ("  Backend: " ++ f.flavor.label)
      hold seconds
      Program.log (.removing f.name)
      f.drop
      Program.line "✓ Segment removed"
      return .ok ()

/-- Works on a segment that exists, and lets it go. -/
def onAttached (raw : String) (c : Config) (act : Facade → Work) : Work := do
  match ← Facade.tryOpen raw 0 c with
  | .error e =>
    return .error (.ofSegmentError ("Shared memory '" ++ raw ++ "' is unavailable") e)
  | .ok f =>
    let r ← act f
    f.drop
    return r

/-- Works on a segment under its lock, as far as the lock can be had. -/
def underGuard {α : Type} (f : Facade) (act : LockStatus → Program α) :
    Program (Except Complaint α) := do
  match ← f.guard with
  | none => return .error ⟨"Failed to lock shared memory '" ++ f.name ++ "'", []⟩
  | some status =>
    let a ← act status
    f.unlock
    return .ok a

def infoWork (f : Facade) : Work := do
  Program.line ("Segment " ++ f.name)
  Program.line ("  Payload: " ++ toString f.size ++ " bytes")
  Program.line ("  Header:  " ++ toString Layout.headerSize ++ " bytes")
  Program.line ("  Backend: " ++ f.flavor.label)
  return .ok ()

/-- Replaces the payload by a text; how much of it was written. -/
def replacePayload (text : String) (f : Facade) (status : LockStatus) : Program Nat := do
  if status = .ownerDied then Program.log (.overwriting f.name)
  let written ← f.write 0 (Text.Utf8.bytes text)
  f.clearFrom written
  return written

/-- Writes a text into a segment and wakes those who wait for it. -/
def writeWork (text : String) (f : Facade) : Work := do
  match ← underGuard f (replacePayload text f) with
  | .error c => return .error c
  | .ok written =>
    f.notifyAll
    let requested := (Text.Utf8.bytes text).length
    if written < requested then Program.log (.truncated f.name written requested)
    Program.line ("✓ Wrote " ++ toString written ++ " bytes to " ++ f.name)
    return .ok ()

/-- Shows the payload of a segment, after a notification if that is asked for. -/
def readWork (wait : Bool) (f : Facade) : Work := do
  if wait then
    Program.log (.waiting f.name)
    f.wait
  match ← underGuard f fun _ => f.readText with
  | .error c => return .error c
  | .ok bytes =>
    Program.line (Text.Utf8.decodeLossy bytes)
    return .ok ()

/-- Wakes those who wait for a segment. -/
def notifyWork (f : Facade) : Work := do
  f.notifyAll
  Program.log (.notified f.name)
  Program.line ("✓ Notified waiters on " ++ f.name)
  return .ok ()

/-- The work of an action under some settings. -/
def Action.work (c : Config) : Action → Work
  | .create raw size seconds => createWork raw size seconds c
  | .info raw => onAttached raw c infoWork
  | .write raw text => onAttached raw c (writeWork text)
  | .read raw wait => onAttached raw c (readWork wait)
  | .notify raw => onAttached raw c notifyWork

end SharedSegment.Command
