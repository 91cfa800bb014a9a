import SharedSegment.Yaml.Mark

/-!
# Tokens

The words of a document: marks of structure, properties of nodes, and scalars.
-/

namespace SharedSegment.Yaml

/-- A tag in resolved or written form, byte by byte. -/
abbrev Tag := List UInt8

/-- How a scalar is written. -/
inductive Style where
  | plain
  | singleQuoted
  | doubleQuoted
  | literal
  | folded
deriving DecidableEq

/-- The kinds of tokens. -/
inductive Token.Kind where
  | streamEnd
  | version (major minor : Nat)
  | tagShorthand (handle : String) (lead : Tag)
  | documentStart
  | documentEnd
  | blockSequenceStart
  | blockMappingStart
  | blockEnd
  | flowSequenceStart
  | flowSequenceEnd
  | flowMappingStart
  | flowMappingEnd
  | blockEntry
  | flowEntry
  | key
  | value
  | alias (name : String)
  | anchor (name : String)
  | tag (handle : String) (suffix : Tag)
  | scalar (text : String) (style : Style)
deriving DecidableEq

/-- A token and where it stands. -/
structure Token where
  kind : Token.Kind
  start : Mark
  stop : Mark
deriving DecidableEq

end SharedSegment.Yaml
