import SharedSegment.Diagnostic
import SharedSegment.Errno
import SharedSegment.Name

/-!
# Failures

Why a segment could not be had (`SegmentError`), why a setting cannot be used (`FieldFault`), and
the failures a program reports at its top (`Failure`). Each has a message, a chain of causes and a
diagnostic form.
-/

namespace SharedSegment

/-- A setting whose value cannot be used. -/
structure FieldFault where
  field : String
  value : String
  reason : String
deriving DecidableEq

namespace FieldFault

/-- The sentence that tells of the fault. -/
def message (f : FieldFault) : String :=
  "Invalid field value: " ++ f.field ++ " = " ++ f.value ++ " - " ++ f.reason

def diagnostic (f : FieldFault) : String :=
  Diagnostic.record "InvalidFieldValue"
    [("field", Diagnostic.text f.field), ("value", Diagnostic.text f.value),
      ("reason", Diagnostic.text f.reason)]

end FieldFault

/-- Why a segment could not be created or attached. Every case names the segment. -/
inductive SegmentError where
  /-- The raw text is no name. -/
  | invalidName (name reason : String)
  /-- A setting cannot be used. -/
  | invalidConfig (name : String) (source : FieldFault)
  /-- Nothing is bound to the name. -/
  | notFound (name : String)
  /-- The name is taken and could not be freed. -/
  | nameCollision (name reason : String)
  /-- A call on the store failed. -/
  | acquire (name operation reason : String)
  /-- What is bound to the name is no finished segment. -/
  | uninitialized (name reason : String)
  /-- A synchronization object could not be set up. -/
  | syncInit (name object reason : String)
deriving DecidableEq

namespace SegmentError

/-- The segment that the failure is about. -/
def name : SegmentError → String
  | .invalidName n _ | .invalidConfig n _ | .notFound n | .nameCollision n _
  | .acquire n _ _ | .uninitialized n _ | .syncInit n _ _ => n

def kind : SegmentError → String
  | .invalidName .. => "InvalidName"
  | .invalidConfig .. => "InvalidConfig"
  | .notFound .. => "NotFound"
  | .nameCollision .. => "NameCollision"
  | .acquire .. => "Acquire"
  | .uninitialized .. => "Uninitialized"
  | .syncInit .. => "SyncInit"

/-- The sentence that tells of the failure. -/
def message : SegmentError → String
  | .invalidName n r => "Invalid shared memory name '" ++ n ++ "': " ++ r
  | .invalidConfig n f => "Invalid configuration for shared memory '" ++ n ++ "': " ++ f.message
  | .notFound n => "Shared memory '" ++ n ++ "' does not exist"
  | .nameCollision n r =>
    "Shared memory '" ++ n ++ "' already exists and could not be reclaimed: " ++ r
  | .acquire n o r => "Failed to " ++ o ++ " shared memory '" ++ n ++ "': " ++ r
  | .uninitialized n r => "Shared memory '" ++ n ++ "' is not initialized: " ++ r
  | .syncInit n o r => "Failed to initialize " ++ o ++ " in shared memory '" ++ n ++ "': " ++ r

/-- The messages of the causes, nearest first. -/
def causes : SegmentError → List String
  | .invalidConfig _ f => [f.message]
  | _ => []

def diagnostic (e : SegmentError) : String :=
  let named := ("name", Diagnostic.text e.name)
  let because (r : String) := ("reason", Diagnostic.text r)
  match e with
  | .invalidName _ r => Diagnostic.record e.kind [named, because r]
  | .invalidConfig _ f => Diagnostic.record e.kind [named, ("source", f.diagnostic)]
  | .notFound _ => Diagnostic.record e.kind [named]
  | .nameCollision _ r => Diagnostic.record e.kind [named, because r]
  | .acquire _ o r =>
    Diagnostic.record e.kind [named, ("operation", Diagnostic.text o), because r]
  | .uninitialized _ r => Diagnostic.record e.kind [named, because r]
  | .syncInit _ o r => Diagnostic.record e.kind [named, ("object", Diagnostic.text o), because r]

end SegmentError

/-- Why a file could not be read as text. -/
inductive FileFault where
  /-- The host refused. -/
  | host (errno : Errno)
  /-- The bytes are no UTF-8 text. -/
  | notUtf8
deriving DecidableEq

namespace FileFault

/-- The sentence that tells of the fault. -/
def message : FileFault → String
  | .host e => e.hostText
  | .notUtf8 => "stream did not contain valid UTF-8"

def diagnostic : FileFault → String
  | .host e =>
    Diagnostic.record "Os"
      [("code", toString e.code), ("kind", e.category), ("message", Diagnostic.text e.hostMessage)]
  | .notUtf8 =>
    Diagnostic.record "Error"
      [("kind", "InvalidData"), ("message", Diagnostic.text (FileFault.message .notUtf8))]

end FileFault

/-- A failure at the top of a program. -/
inductive Failure where
  /-- A setting cannot be used. -/
  | validation (fault : FieldFault)
  /-- There is no file at the path of the configuration. -/
  | configNotFound (path : String)
  /-- The configuration is not well-formed. -/
  | configParse (message : String)
  /-- A segment could not be had. -/
  | segment (error : SegmentError)
  /-- A file could not be read. -/
  | file (context : String) (source : FileFault)
deriving DecidableEq

namespace Failure

/-- The sentence that tells of the failure. -/
def message : Failure → String
  | .validation f => "Hard validation error: " ++ f.message
  | .configNotFound p => "Configuration file not found: " ++ p
  | .configParse m => "Configuration parse error: " ++ m
  | .segment e => "Shared memory error: " ++ e.message
  | .file c s => "IO error: " ++ c ++ " - " ++ s.message

/-- The messages of the causes, nearest first. -/
def causes : Failure → List String
  | .validation f => [f.message]
  | .configNotFound _ | .configParse _ => []
  | .segment e => e.message :: e.causes
  | .file _ s => [s.message]

def diagnostic : Failure → String
  | .validation f => Diagnostic.wrapped "HardValidation" f.diagnostic
  | .configNotFound p => Diagnostic.record "ConfigNotFound" [("path", Diagnostic.text p)]
  | .configParse m => Diagnostic.record "ConfigParse" [("message", Diagnostic.text m)]
  | .segment e => Diagnostic.wrapped "SharedMemory" e.diagnostic
  | .file c s =>
    Diagnostic.record "Io" [("context", Diagnostic.text c), ("source", s.diagnostic)]

end Failure
end SharedSegment
