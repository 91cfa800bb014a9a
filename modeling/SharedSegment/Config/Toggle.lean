import SharedSegment.Config
import SharedSegment.Text.Utf8

/-!
# The environment toggle

One variable of the environment chooses the flavor. A value that is no text counts as no value.
-/

namespace SharedSegment

def Config.toggleVariable : String := "SHMLINK_SHAREDMEMORY_POSIX"

namespace Flavor

/-- The flavor that a value of the toggle chooses: a leading `1` means POSIX. -/
def ofToggle : Option String → Flavor
  | some v => if v.toList.head? = some '1' then .posix else .sysV
  | none => .sysV

end Flavor

namespace Config

/-- The toggle as a program finds it in its environment, which holds bytes: those that are no text
count as no value. -/
def toggleText (value : Option (List UInt8)) : Option String :=
  value.bind Text.Utf8.decode

/-- Settings whose flavor gives way to the toggle, when it is set. -/
def withToggle (c : Config) : Option String → Config
  | some v => { c with flavor := .ofToggle (some v) }
  | none => c

def ofToggle (toggle : Option String) : Config :=
  standard.withToggle toggle

end Config
end SharedSegment
