import Mathlib.Tactic.Lemma
import SharedSegment.Yaml.Document

/-!
# Writing a tree

A tree of plain words, quoted texts, sequences and mappings, without anchors and tags, is written on
one line: collections in brackets, every key behind its mark, so that it may be of any length, and
quoted texts with everything but letters, digits, dashes and underscores escaped (`Node.write`). The
words of what is written are told by the tree (`Node.kinds`), and so are the events that its
structure forms (`Node.events`); the tree that these events build is the tree itself
(`Node.ofEvents_events`).
-/

namespace SharedSegment.Yaml

/-- Whether a character may stand anywhere in a plain word. -/
def isPlainChar (c : Char) : Bool :=
  !(endsWord (some c) || TokenStream.indicators.contains c) && isAllowed c

/-- The last digits of a number in base sixteen, as many as are asked for. -/
def hexDigits : Nat → Nat → List Char
  | 0, _ => []
  | k + 1, n => hexDigits k (n / 16) ++ [(n % 16).digitChar]

/-- A character between double quotes. -/
def escapeChar (c : Char) : List Char :=
  if isWordChar c then [c] else '\\' :: 'U' :: hexDigits 8 c.toNat

/-- A text between double quotes, with the quotes. -/
def quoted (cs : List Char) : List Char :=
  '"' :: cs.flatMap escapeChar ++ ['"']

namespace Scalar

/-- Whether a scalar is written: quoted, or as a plain word. -/
def isWritable (s : Scalar) : Bool :=
  s.tag.isNone && (s.style == .doubleQuoted ||
    s.style == .plain && !s.text.toList.isEmpty && s.text.toList.all isPlainChar)

def write (s : Scalar) : List Char :=
  if s.style = .plain then s.text.toList else quoted s.text.toList

end Scalar

namespace Node

mutual

/-- Whether a tree is written: it has scalars that are, and neither anchors nor tags. -/
def isWritable : Node → Bool
  | .scalar _ a s => a.isNone && s.isWritable
  | .sequence _ a t items => a.isNone && t.isNone && areWritable items
  | .mapping _ a t entries => a.isNone && t.isNone && areWritableEntries entries
  | .alias .. | .cut => false

def areWritable : List Node → Bool
  | [] => true
  | n :: r => n.isWritable && areWritable r

def areWritableEntries : List (Node × Node) → Bool
  | [] => true
  | (k, v) :: r => k.isWritable && v.isWritable && areWritableEntries r

end

mutual

/-- What is written for a tree. -/
def write : Node → List Char
  | .scalar _ _ s => s.write
  | .sequence _ _ _ items => '[' :: (writeItems items ++ [']'])
  | .mapping _ _ _ entries => '{' :: (writeEntries entries ++ ['}'])
  | .alias .. | .cut => []

def writeItems : List Node → List Char
  | [] => []
  | n :: r => n.write ++ ',' :: ' ' :: writeItems r

def writeEntries : List (Node × Node) → List Char
  | [] => []
  | (k, v) :: r =>
    '?' :: ' ' :: (k.write ++ ':' :: ' ' :: (v.write ++ ',' :: ' ' :: writeEntries r))

end

mutual

/-- The words of what is written for a tree. -/
def kinds : Node → List Token.Kind
  | .scalar _ _ s => [.scalar s.text s.style]
  | .sequence _ _ _ items => .flowSequenceStart :: (itemKinds items ++ [.flowSequenceEnd])
  | .mapping _ _ _ entries => .flowMappingStart :: (entryKinds entries ++ [.flowMappingEnd])
  | .alias .. | .cut => []

def itemKinds : List Node → List Token.Kind
  | [] => []
  | n :: r => n.kinds ++ .flowEntry :: itemKinds r

def entryKinds : List (Node × Node) → List Token.Kind
  | [] => []
  | (k, v) :: r => .key :: (k.kinds ++ .value :: (v.kinds ++ .flowEntry :: entryKinds r))

end

mutual

/-- The steps through the structure of a tree. -/
def events : Node → List Event
  | .alias m a => [.alias m a]
  | .scalar m a s => [.scalar m a s]
  | .sequence m a t items => .opens .sequence m a t :: (itemEvents items ++ [.closes])
  | .mapping m a t entries => .opens .mapping m a t :: (entryEvents entries ++ [.closes])
  | .cut => []

def itemEvents : List Node → List Event
  | [] => []
  | n :: r => n.events ++ itemEvents r

def entryEvents : List (Node × Node) → List Event
  | [] => []
  | (k, v) :: r => k.events ++ v.events ++ entryEvents r

end

mutual

/-- A tree without its places in the text. -/
def bare : Node → Node
  | .alias _ a => .alias .zero a
  | .scalar _ a s => .scalar .zero a s
  | .sequence _ a t items => .sequence .zero a t (bareItems items)
  | .mapping _ a t entries => .mapping .zero a t (bareEntries entries)
  | .cut => .cut

def bareItems : List Node → List Node
  | [] => []
  | n :: r => n.bare :: bareItems r

def bareEntries : List (Node × Node) → List (Node × Node)
  | [] => []
  | (k, v) :: r => (k.bare, v.bare) :: bareEntries r

end

/-- The items of a collection with all that is in them, one after the other. -/
def flatten : List (Node × Node) → List Node
  | [] => []
  | (k, v) :: r => k :: v :: flatten r

lemma pairs_flatten (entries : List (Node × Node)) : pairs (flatten entries) = entries := by
  induction entries with
  | nil => rfl
  | cons e r ih => rw [flatten, pairs, ih]

mutual

/-- The events of a whole tree place it into the innermost frame. -/
theorem build_events (n : Node) (whole : n.isWhole) (fs : List Frame) (es : List Event) :
    build fs (n.events ++ es) = build.place n fs es := by
  match n with
  | .alias m a => rw [events, List.singleton_append, build]
  | .scalar m a s => rw [events, List.singleton_append, build]
  | .sequence m a t items =>
    rw [isWhole] at whole
    -- The frame is opened, filled, and closed into the frame around it.
    rw [events, List.cons_append, List.append_assoc, build, build_itemEvents items whole]
    simp [build, Frame.close]
  | .mapping m a t entries =>
    rw [isWhole] at whole
    rw [events, List.cons_append, List.append_assoc, build, build_entryEvents entries whole]
    simp [build, Frame.close, pairs_flatten]
  | .cut => cases whole

/-- The events of whole items go into the frame that is open. -/
theorem build_itemEvents (items : List Node) (whole : areWhole items) (f : Frame) (fs : List Frame)
    (es : List Event) :
    build (f :: fs) (itemEvents items ++ es) =
      build ({ f with inner := items.reverse ++ f.inner } :: fs) es := by
  cases items with
  | nil => rfl
  | cons n r =>
    rw [areWhole, Bool.and_eq_true] at whole
    rw [itemEvents, List.append_assoc, build_events n whole.1, build.place,
      build_itemEvents r whole.2]
    simp [Frame.add]

/-- The events of whole entries go into the frame that is open, keys and values in turn. -/
theorem build_entryEvents (entries : List (Node × Node)) (whole : areWholeEntries entries)
    (f : Frame) (fs : List Frame) (es : List Event) :
    build (f :: fs) (entryEvents entries ++ es) =
      build ({ f with inner := (flatten entries).reverse ++ f.inner } :: fs) es := by
  match entries with
  | [] => rfl
  | (k, v) :: r =>
    simp only [areWholeEntries, Bool.and_eq_true] at whole
    rw [entryEvents, List.append_assoc, List.append_assoc, build_events k whole.1.1, build.place,
      build_events v whole.1.2, build.place, build_entryEvents r whole.2]
    simp [Frame.add, flatten]

end

/-- The events of a whole tree build it. -/
theorem ofEvents_events (n : Node) (whole : n.isWhole) : ofEvents n.events = n := by
  have built := build_events n whole [] []
  rwa [List.append_nil, build.place] at built

end Node
end SharedSegment.Yaml
