import SharedSegment.Config.Document
import SharedSegment.Config.Toggle
import SharedSegment.Text.Blank
import SharedSegment.Text.Utf8

/-!
# Loading settings

Settings come from a text or a file. A blank text gives the standard ones. What is loaded has always
passed `Config.validate`; the toggle, when set, then overrides the flavor of a file.
-/

namespace SharedSegment.Config

/-- What a path leads to. -/
inductive File where
  /-- Nothing. -/
  | missing
  /-- Bytes, or the reason why they cannot be had. -/
  | found (content : Except Errno (List UInt8))

/-- Why no settings could be loaded. -/
inductive LoadError where
  /-- There is no file at the path. -/
  | missing (path : String)
  /-- The file cannot be read as text. -/
  | unreadable (fault : FileFault)
  /-- The text gives no settings. -/
  | document (fault : DocumentFault)
  /-- The settings are refused. -/
  | invalid (fault : FieldFault)
deriving DecidableEq

namespace LoadError

/-- The failure at the top of a program. -/
def toFailure : LoadError → Failure
  | .missing p => .configNotFound p
  | .unreadable f => .file "reading config file" f
  | .document f => .configParse ("YAML parse error: " ++ f.message)
  | .invalid f => .validation f

end LoadError

/-- The settings that are admitted, the others refused. -/
def validated (c : Config) : Except LoadError Config :=
  match c.validate with
  | .ok () => .ok c
  | .error f => .error (.invalid f)

def load (text : String) : Except LoadError Config :=
  if Text.isBlank text then validated .standard
  else
    match ofDocument (.ofText text) with
    | .ok c => validated c
    | .error f => .error (.document f)

/-- The settings in a file, under a toggle. -/
def loadFile (toggle : Option String) (path : String) : File → Except LoadError Config
  | .missing => .error (.missing path)
  | .found (.error e) => .error (.unreadable (.host e))
  | .found (.ok bytes) =>
    match Text.Utf8.decode bytes with
    | none => .error (.unreadable .notUtf8)
    | some text => (load text).map fun c => c.withToggle toggle

end SharedSegment.Config
