import SharedSegment.Name

/-!
# The store

The store binds file names to memory objects, directories and links. A segment name is looked up
without its separator; what is left may still be no file name at all: with a separator in it, or one
of the two names that every directory has.
-/

namespace SharedSegment

/-- A memory object, by the order in which objects were made. -/
abbrev ObjectId := Nat

/-- What a file name is bound to. -/
inductive Binding where
  | object (id : ObjectId)
  | directory
  | link (target : String)
deriving DecidableEq

/-- A store: bindings by file name. -/
structure Store where
  bindings : List (String × Binding)
deriving DecidableEq

namespace Store

def empty : Store := ⟨[]⟩

/-- What a file name is bound to. -/
def get? (s : Store) (file : String) : Option Binding :=
  s.bindings.lookup file

def erase (s : Store) (file : String) : Store :=
  ⟨s.bindings.filter fun b => b.1 != file⟩

/-- A store that binds a file name. -/
def insert (s : Store) (file : String) (b : Binding) : Store :=
  ⟨(file, b) :: (s.erase file).bindings⟩

def names (s : Store) : List String :=
  (s.bindings.map Prod.fst).mergeSort fun a b => a ≤ b

/-- What a segment name leads to. -/
inductive Place where
  /-- It lies in a directory of its own, where nothing is. -/
  | nested
  /-- A directory. -/
  | directory
  /-- A file name and what it is bound to. -/
  | file (bound : Option Binding)

def place (s : Store) (n : Name) : Place :=
  if Name.separator ∈ n.stem then .nested
  else if n.stem = ['.'] ∨ n.stem = ['.', '.'] then .directory
  else
    match s.get? n.file with
    | some .directory => .directory
    | b => .file b

end Store
end SharedSegment
