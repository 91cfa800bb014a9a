import SharedSegment.Yaml.Problem
import SharedSegment.Yaml.Token

/-!
# Events

The structure of a document, node by node, as its tokens tell it. A node that carries an anchor has
a number, by which aliases refer to it.
-/

namespace SharedSegment.Yaml

/-- A scalar as it is written. -/
structure Scalar where
  text : String
  style : Style
  tag : Option Tag
deriving DecidableEq

def Scalar.empty : Scalar := ⟨"", .plain, none⟩

/-- What a collection is. -/
inductive Collection where
  | sequence
  | mapping
deriving DecidableEq

/-- One step through the structure of a document. -/
inductive Event where
  | alias (mark : Mark) (anchor : Nat)
  | scalar (mark : Mark) (anchor : Option Nat) (value : Scalar)
  | opens (kind : Collection) (mark : Mark) (anchor : Option Nat) (tag : Option Tag)
  | closes
deriving DecidableEq

/-- Why a document breaks off. -/
inductive Break where
  /-- The text is no document from here on. -/
  | problem (p : Problem)
  /-- An alias refers to no anchor before it. -/
  | unknownAnchor (mark : Mark)
deriving DecidableEq

end SharedSegment.Yaml
