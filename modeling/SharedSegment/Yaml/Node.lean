import SharedSegment.Yaml.Event

/-!
# Nodes

A document as a tree. A text that breaks off leaves a tree whose last branches are cut: what was
read before the break is there, and `cut` stands for the rest.
-/

namespace SharedSegment.Yaml

/-- A node of a document. -/
inductive Node where
  | alias (mark : Mark) (anchor : Nat)
  | scalar (mark : Mark) (anchor : Option Nat) (value : Scalar)
  | sequence (mark : Mark) (anchor : Option Nat) (tag : Option Tag) (items : List Node)
  | mapping (mark : Mark) (anchor : Option Nat) (tag : Option Tag) (entries : List (Node × Node))
  | cut

namespace Node

mutual

/-- Whether nothing in a node is cut. -/
def isWhole : Node → Bool
  | .alias .. | .scalar .. => true
  | .sequence _ _ _ items => areWhole items
  | .mapping _ _ _ entries => areWholeEntries entries
  | .cut => false

/-- Whether nothing in some nodes is cut. -/
def areWhole : List Node → Bool
  | [] => true
  | n :: r => n.isWhole && areWhole r

/-- Whether nothing in some entries is cut. -/
def areWholeEntries : List (Node × Node) → Bool
  | [] => true
  | (k, v) :: r => k.isWhole && v.isWhole && areWholeEntries r

end

mutual

/-- The anchored nodes in a node, in the order of the text. -/
def anchored : Node → List (Nat × Node)
  | .alias .. | .cut => []
  | .scalar m a v => a.toList.map (·, .scalar m a v)
  | .sequence m a t items => a.toList.map (·, .sequence m a t items) ++ anchoredIn items
  | .mapping m a t entries => a.toList.map (·, .mapping m a t entries) ++ anchoredInEntries entries

def anchoredIn : List Node → List (Nat × Node)
  | [] => []
  | n :: r => n.anchored ++ anchoredIn r

def anchoredInEntries : List (Node × Node) → List (Nat × Node)
  | [] => []
  | (k, v) :: r => k.anchored ++ v.anchored ++ anchoredInEntries r

end

/-- Keys and values, which alternate, as entries. -/
def pairs : List Node → List (Node × Node)
  | k :: v :: r => (k, v) :: pairs r
  | [k] => [(k, .cut)]
  | [] => []

/-- A collection that is still open, with what it holds so far, last first. -/
structure Frame where
  kind : Collection
  mark : Mark
  anchor : Option Nat
  tag : Option Tag
  inner : List Node

def Frame.close (f : Frame) : Node :=
  match f.kind with
  | .sequence => .sequence f.mark f.anchor f.tag f.inner.reverse
  | .mapping => .mapping f.mark f.anchor f.tag (pairs f.inner.reverse)

/-- A frame with one more node in it. -/
def Frame.add (f : Frame) (n : Node) : Frame :=
  { f with inner := n :: f.inner }

/-- The outermost frame, all frames cut off and closed. -/
def cutOff (n : Node) : List Frame → Node
  | [] => n
  | f :: fs => cutOff (f.add n).close fs

/-- The tree that events form inside some open frames. -/
def build : List Frame → List Event → Node
  | fs, [] => cutOff .cut fs
  | fs, .alias m a :: es => place (.alias m a) fs es
  | fs, .scalar m a v :: es => place (.scalar m a v) fs es
  | fs, .opens k m a t :: es => build (⟨k, m, a, t, []⟩ :: fs) es
  | f :: fs, .closes :: es => place f.close fs es
  | [], .closes :: _ => .cut
where
  /-- Puts a finished node into the innermost frame; without one, it is the whole tree. -/
  place (n : Node) : List Frame → List Event → Node
    | [], _ => n
    | f :: fs, es => build (f.add n :: fs) es

def ofEvents (es : List Event) : Node :=
  build [] es

end Node
end SharedSegment.Yaml
