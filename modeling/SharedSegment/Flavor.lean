/-!
# Flavors

A segment carries one of two labels. The label shows in log records and in the facade, and decides
nothing else.
-/

namespace SharedSegment

/-- The label of a segment. -/
inductive Flavor where
  | posix
  | sysV
deriving DecidableEq

namespace Flavor

def standard : Flavor := .sysV

def label : Flavor → String
  | .posix => "posix"
  | .sysV => "sysv"

def diagnostic : Flavor → String
  | .posix => "Posix"
  | .sysV => "SysV"

def ofLabel? (s : String) : Option Flavor :=
  if s = "posix" then some .posix else if s = "sysv" then some .sysV else none

@[simp] theorem ofLabel?_label (f : Flavor) : ofLabel? f.label = some f := by
  cases f <;> rfl

end Flavor
end SharedSegment
