import SharedSegment.Host
import SharedSegment.Text.Bounded

/-!
# Direct access to the store

Files of the store can be made, changed, looked at and taken away without any segment in mind. Links
are followed when the content of a file is asked for, and not when the file itself is.
-/

namespace SharedSegment

/-- What is known of a file. -/
inductive Description where
  /-- An object: its length, its mode, and its first four bytes as a number if it has them. -/
  | object (length : Nat) (mode : UInt32) (sizeField : Option UInt32)
  | directory
  | link
deriving DecidableEq

/-- An object with bytes written over, longer where they need it. -/
def Object.patch (o : Object) (off : Nat) (bs : List UInt8) : Object :=
  if bs.isEmpty then o
  else { o.write off bs.toArray with length := max o.length (off + bs.length) }

namespace Host

def maxFileBytes : Nat := 255

/-- The mode of a file that is made directly. -/
def directMode : UInt32 := 0o600

/-- How many links are followed at most. -/
def maxLinks : Nat := 40

/-- The directory of the store, as links name it. -/
def directoryPath : String := "/dev/shm/"

/-- What a file name is bound to. Some names stand for the directory itself. -/
def bound (h : Host) (file : String) : Except Errno (Option Binding) :=
  if file = "" ∨ file = "." ∨ file = ".." then .ok (some .directory)
  else if file.toList.contains '/' then .error .enoent
  else if maxFileBytes < Text.byteLength file.toList then .error .enametoolong
  else .ok (h.store.get? file)

/-- The file name that a link leads to. -/
def linked (target : String) : String :=
  if target.startsWith directoryPath then (target.drop directoryPath.length).toString else target

/-- The file name and the binding that a file name leads to over links. -/
def follow (h : Host) : Nat → String → Except Errno (String × Option Binding)
  | 0, _ => .error .eloop
  | fuel + 1, file =>
    match h.bound file with
    | .error e => .error e
    | .ok (some (.link target)) => h.follow fuel (linked target)
    | .ok b => .ok (file, b)

/-- Something done to the object that a file name leads to, if it permits that. -/
def onContent {α : Type} (h : Host) (file : String) (permits : Object → Bool)
    (act : ObjectId → Object → α) : Except Errno α :=
  match h.follow (maxLinks + 1) file with
  | .error e => .error e
  | .ok (_, some (.object id)) =>
    match h.object? id with
    | some o => if permits o then .ok (act id o) else .error .eacces
    | none => .error .enoent
  | .ok (_, some _) => .error .eisdir
  | .ok (_, none) => .error .enoent

/-- Binds a file name that is free. -/
def bindFree (h : Host) (file : String) (b : Binding) : Except Errno Host :=
  match h.bound file with
  | .error e => .error e
  | .ok (some _) => .error .eexist
  | .ok none => .ok { h with store := h.store.insert file b }

def setLength (h : Host) (file : String) (length : Nat) : Except Errno Host :=
  h.onContent file Object.isWritable fun id o => h.setObject id (o.resize length)

def patchFile (h : Host) (file : String) (off : Nat) (bs : List UInt8) : Except Errno Host :=
  h.onContent file Object.isWritable fun id o => h.setObject id (o.patch off bs)

/-- Makes a file that holds nothing, or takes away what it holds. -/
def blankFile (h : Host) (file : String) : Except Errno Host :=
  match h.follow (maxLinks + 1) file with
  | .error e => .error e
  | .ok (last, none) =>
    .ok { h with
      store := h.store.insert last (.object h.objects.length)
      objects := h.objects ++ [Object.fresh directMode] }
  | .ok (_, some _) => h.setLength file 0

/-- Makes a file of some length anew, with a number in front if there is one, and some bytes. -/
def putFile (h : Host) (file : String) (length : Nat) (sizeField : Option UInt32) (off : Nat)
    (bs : List UInt8) : Except Errno Host := do
  let h ← h.blankFile file
  let h ← h.setLength file length
  let h ← match sizeField with
    | some n => h.patchFile file 0 (Object.bytesOf n).toList
    | none => .ok h
  h.patchFile file off bs

def makeDirectory (h : Host) (file : String) : Except Errno Host :=
  h.bindFree file .directory

def makeLink (h : Host) (file target : String) : Except Errno Host :=
  if target.isEmpty then .error .enoent else h.bindFree file (.link target)

def removeFile (h : Host) (file : String) : Except Errno Host :=
  match h.bound file with
  | .error e => .error e
  | .ok none => .error .enoent
  | .ok (some .directory) => .error .eisdir
  | .ok (some _) => .ok { h with store := h.store.erase file }

/-- Some bytes of a file, as far as it goes. -/
def content (h : Host) (file : String) (off : Nat) (len : Option Nat) :
    Except Errno (List UInt8) :=
  h.onContent file Object.isReadable fun _ o =>
    let rest := o.length - off
    o.read off ((len.map (min rest)).getD rest)

def describe (h : Host) (file : String) : Except Errno Description :=
  match h.bound file with
  | .error e => .error e
  | .ok none => .error .enoent
  | .ok (some .directory) => .ok .directory
  | .ok (some (.link _)) => .ok .link
  | .ok (some (.object _)) =>
    h.onContent file Object.isReadable fun _ o =>
      .object o.length o.mode (if 4 ≤ o.length then some o.sizeField else none)

end Host
end SharedSegment
