import SharedSegment.Segment

/-!
# Creating and attaching

A creator makes an object of its own under the name. Where that fails, whatever is bound there
counts as left over: it is taken away once and creation is tried once more. An attacher finds out
the size from the header before it maps the whole segment, and refuses what is no finished segment.
A creation that fails half-way is torn down like any handle.
-/

namespace SharedSegment.Segment

def acquireError (n : Name) (operation reason : String) : SegmentError :=
  .acquire n.text operation reason

/-- Creation failed, and perhaps the removal of what was in the way. -/
def createError (n : Name) (first : Errno) (removal : Option Errno) : SegmentError :=
  let reason := match removal with
    | some e => first.text ++ " (removal failed: " ++ e.text ++ ")"
    | none => first.text
  if first = .eexist then .nameCollision n.text reason else acquireError n "create" reason

/-- Makes an object under a name, after freeing the name if need be. -/
def openExclusive (n : Name) (c : Config) : Program (Except SegmentError FileId) := do
  match ← Program.request (.openNew n c.mode) with
  | .ok f => return .ok f
  | .error first =>
    Program.log (.retrying n c.flavor first)
    match ← Program.request (.unlink n) with
    | .error e => return .error (createError n first (some e))
    | .ok () =>
      match ← Program.request (.openNew n c.mode) with
      | .ok f =>
        Program.log (.reclaimed n c.flavor)
        return .ok f
      | .error e => return .error (createError n e none)

/-- Keeps the pages of a segment in memory, if that can be done. -/
def pin (n : Name) (c : Config) (m : MappingId) (size : UInt32) : Program Unit :=
  if c.lockPages then do
    Program.logFailure (← Program.request (.pin m)) (.pinFailed n c.flavor (Header.total size))
  else return ()

/-- Gives a half-made segment up for a reason. -/
def giveUp (s : Segment) (e : SegmentError) : Program (Except SegmentError Segment) := do
  let _ ← s.destroy
  return .error e

/-- Makes a segment of some size under a name. -/
def create (n : Name) (size : UInt32) (c : Config) : Program (Except SegmentError Segment) := do
  match ← openExclusive n c with
  | .error e => return .error e
  | .ok f =>
    let s : Segment :=
      { name := n, flavor := c.flavor, role := .creator, size
        file := some f, mapping := none, ownsSync := false }
    match ← Program.request (.resize f (Header.total size)) with
    | .error e => s.giveUp (acquireError n "resize" e.hostText)
    | .ok () =>
      match ← Program.request (.map f (Header.total size)) with
      | .error e => s.giveUp (acquireError n "map" e.text)
      | .ok m =>
        let s := { s with mapping := some m }
        match ← Header.prepare m size with
        | .error e => s.giveUp (.syncInit n.text e.call.name e.errno.text)
        | .ok () =>
          pin n c m size
          Program.log (.created n c.flavor size)
          return .ok { s with ownsSync := true }

/-- What is bound to a name is shorter than it has to be. -/
def tooShort (n : Name) (stored : Nat) (what : String) (needed : Nat) : SegmentError :=
  .uninitialized n.text
    ("backing store is " ++ toString stored ++ " bytes, " ++ what ++ " needs " ++ toString needed)

/-- The size in the header of an open file, found through a mapping of the header alone. -/
def probe (n : Name) (c : Config) (f : FileId) : Program (Except SegmentError UInt32) := do
  match ← Program.request (.map f Layout.headerSize) with
  | .error e => return .error (acquireError n "map header of" e.text)
  | .ok m =>
    let size ← Program.request (.loadSize m)
    Program.logFailure (← Program.request (.unmap m)) (.probeKept n c.flavor)
    return .ok size

/-- Maps the segment in an open file whose length is known. -/
def mapWhole (n : Name) (f : FileId) (stored : Nat) (size : UInt32) :
    Program (Except SegmentError MappingId) :=
  if size = 0 then
    return .error (.uninitialized n.text "creator has not published a payload size")
  else if stored < Header.total size then
    return .error (tooShort n stored "segment" (Header.total size))
  else do
    match ← Program.request (.map f (Header.total size)) with
    | .error e => return .error (acquireError n "map" e.text)
    | .ok m => return .ok m

/-- The size and the mapping of the segment in an open file. -/
def mapFile (n : Name) (c : Config) (f : FileId) :
    Program (Except SegmentError (UInt32 × MappingId)) := do
  match ← Program.request (.length f) with
  | .error e => return .error (acquireError n "stat" e.hostText)
  | .ok stored =>
    if stored < Layout.headerSize then
      return .error (tooShort n stored "header" Layout.headerSize)
    else
      match ← probe n c f with
      | .error e => return .error e
      | .ok size =>
        match ← mapWhole n f stored size with
        | .error e => return .error e
        | .ok m => return .ok (size, m)

def attach (n : Name) (c : Config) : Program (Except SegmentError Segment) := do
  match ← Program.request (.openExisting n) with
  | .error e =>
    return .error (if e = .enoent then .notFound n.text else acquireError n "open" e.text)
  | .ok f =>
    match ← mapFile n c f with
    | .error e =>
      Program.request (.close f)
      return .error e
    | .ok (size, m) =>
      pin n c m size
      Program.log (.attached n c.flavor size)
      return .ok
        { name := n, flavor := c.flavor, role := .attacher, size
          file := some f, mapping := some m, ownsSync := false }

end SharedSegment.Segment
