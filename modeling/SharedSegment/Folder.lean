import SharedSegment.Config.Loader

/-!
# The working directory

Files and directories by their path within the working directory. A path is looked up component by
component: empty ones and single dots stay, two dots go up, and nothing lies below a file. What lies
outside the working directory is not there, apart from the directories above it.
-/

namespace SharedSegment

/-- What a path within the working directory is bound to. -/
inductive Folder.Entry where
  | file (content : List UInt8)
  | directory
deriving DecidableEq

/-- A working directory: its entries by path, the latest first. -/
structure Folder where
  entries : List (List String × Folder.Entry)
deriving DecidableEq

namespace Folder

def empty : Folder := ⟨[]⟩

/-- A component of a path is a step down, a step up, or none. -/
def walk : List String → List String → Option (List String)
  | done, [] => some done.reverse
  | done, ".." :: r =>
    match done with
    | [] => none
    | _ :: up => walk up r
  | done, c :: r => if c.isEmpty || c == "." then walk done r else walk (c :: done) r

def components (path : String) : List String :=
  path.splitOn "/"

def isAbove (above path : List String) : Bool :=
  above.length < path.length && path.take above.length == above

/-- What the components of a path within the directory are bound to: an entry of their own, or the
directory that some entry lies in. -/
def entry? (f : Folder) (path : List String) : Option Entry :=
  match f.entries.lookup path with
  | some e => some e
  | none =>
    if path.isEmpty || f.entries.any fun e => isAbove path e.1 then some .directory else none

/-- Whether a path asks for a directory by its end. -/
def asksDirectory (path : String) : Bool :=
  match (components path).getLast? with
  | some c => c.isEmpty || c == "." || c == ".."
  | none => false

/-- Whether every component that is followed by another leads to a directory. -/
def isPassable (f : Folder) (done : List String) : List String → Bool
  | [] | [_] => true
  | ".." :: r => isPassable f (done.drop 1) r
  | c :: r =>
    if c.isEmpty || c == "." then isPassable f done r
    else
      match f.entry? (c :: done).reverse with
      | some .directory => isPassable f (c :: done) r
      | _ => false

def lookup (f : Folder) (path : String) : Config.File :=
  if path.isEmpty || path.toList.contains '\x00' then .missing
  else if path.startsWith "/" then
    if (components path).all fun c => c.isEmpty || c == "." || c == ".." then
      .found (.error .eisdir)
    else .missing
  else
    match walk [] (components path) with
    | none =>
      if (components path).all fun c => c.isEmpty || c == "." || c == ".." then
        .found (.error .eisdir)
      else .missing
    | some inner =>
      if !f.isPassable [] (components path) then .missing
      else
        match f.entry? inner with
        | some (.file bytes) => if asksDirectory path then .missing else .found (.ok bytes)
        | some .directory => .found (.error .eisdir)
        | none => .missing

def put (f : Folder) (path : String) (e : Entry) : Folder :=
  match walk [] (components path) with
  | some inner => ⟨(inner, e) :: f.entries.filter fun x => x.1 != inner⟩
  | none => f

end Folder
end SharedSegment
