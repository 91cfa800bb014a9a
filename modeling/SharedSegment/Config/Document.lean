import SharedSegment.Config
import SharedSegment.Yaml.Document
import SharedSegment.Yaml.Meaning

/-!
# Settings in a document

A configuration is a mapping whose `segment` is a mapping of settings. Unknown keys are passed over
with whatever they hold, a key may stand once, and what is missing keeps its standard value. Nothing
at all, and an empty `segment`, mean the standard settings. The first fault in the order of the text
decides, and a place where the text breaks off is a fault when it is reached.
-/

namespace SharedSegment.Config

open Yaml

/-- A value that cannot be read, and where: the path of keys and the position. -/
structure ValueFault where
  sentence : String
  /-- The path of keys, empty at the root. -/
  path : String
  mark : Mark
deriving DecidableEq

/-- The whole message of a value fault but its position. -/
def ValueFault.text (f : ValueFault) : String :=
  if f.path.isEmpty then f.sentence else f.path ++ ": " ++ f.sentence

/-- The position of a value fault, where it is worth saying. -/
def ValueFault.place (f : ValueFault) : String :=
  if f.mark.isOrigin then "" else " at " ++ f.mark.text

/-- Why a document gives no settings. -/
inductive DocumentFault where
  /-- A value cannot be read. -/
  | value (f : ValueFault)
  /-- The text is no document. -/
  | malformed (b : Break)
  /-- The text holds another document. -/
  | several
deriving DecidableEq

namespace DocumentFault

def message : DocumentFault → String
  | .value f => f.text ++ f.place
  | .malformed (.problem p) => p.text
  | .malformed (.unknownAnchor m) =>
    "unknown anchor" ++ if m.isOrigin then "" else " at " ++ m.text
  | .several => "deserializing from YAML containing more than one document is not supported"

end DocumentFault

namespace Reading

/-- Why reading stops. -/
inductive Stop where
  /-- At a value that cannot be read; the place may be known only further out. -/
  | fault (sentence : String) (place : Option (String × Mark))
  /-- Where the text breaks off. -/
  | cut

abbrev Result := Except Stop

/-- Gives a place to a fault that has none yet. -/
def within {α : Type} (path : String) (mark : Mark) : Result α → Result α
  | .error (.fault sentence none) => .error (.fault sentence (some (path, mark)))
  | r => r

def fail {α : Type} (sentence : String) : Result α :=
  .error (.fault sentence none)

def wrongType {α : Type} (found expected : String) : Result α :=
  fail ("invalid type: " ++ found ++ ", expected " ++ expected)

/-- A value of the right type is not admitted. -/
def wrongValue {α : Type} (found expected : String) : Result α :=
  fail ("invalid value: " ++ found ++ ", expected " ++ expected)

/-- A scalar that does not mean what is expected. -/
def wrongScalar {α : Type} (s : Scalar) (expected : String) : Result α :=
  match s.meaning with
  | .ok m => wrongType m.description expected
  | .error asked => wrongValue (Meaning.text s.text).description asked

/-- A node that is not what is expected. -/
def wrongNode {α : Type} (n : Node) (expected : String) : Result α :=
  match n with
  | .scalar _ _ s => wrongScalar s expected
  | .sequence .. => wrongType "sequence" expected
  | .mapping .. => wrongType "map" expected
  | .alias .. | .cut => .error .cut

def markOf : Node → Mark
  | .alias m _ | .scalar m _ _ | .sequence m _ _ _ | .mapping m _ _ _ => m
  | .cut => .zero

/-- The node that an alias refers to, any other node itself. -/
def target (d : Document) : Node → Node
  | .alias _ a => (d.anchored? a).getD .cut
  | n => n

/-- Reads the target of a node, whose place a fault gets. -/
def ofTarget {α : Type} (d : Document) (path : String) (n : Node) (f : Node → Result α) :
    Result α :=
  let t := target d n
  within path (markOf t) (f t)

def join (path key : String) : String :=
  if path.isEmpty then key else path ++ "." ++ key

/-- A key: its text, and the path of what it names. A key that is an alias does not show there. -/
def key (d : Document) (path : String) (n : Node) : Result (String × String) :=
  ofTarget d path n fun t =>
    match t with
    | .scalar _ _ s =>
      .ok (s.text, join path (match n with
        | .alias .. => "?"
        | _ => s.text))
    | t => wrongNode t "field identifier"

def mode (d : Document) (path : String) (n : Node) : Result UInt32 :=
  ofTarget d path n fun t =>
    match t with
    | .scalar _ _ s =>
      match if s.admits "int" then Scalar.natural? s.text.toList else none with
      | some v =>
        if v < twoTo 32 then .ok v.toUInt32
        else if v < twoTo 64 then wrongValue (Meaning.int v).description "u32"
        else wrongScalar s "u32"
      | none => wrongScalar s "u32"
    | t => wrongNode t "u32"

def truth (d : Document) (path : String) (n : Node) : Result Bool :=
  ofTarget d path n fun t =>
    match t with
    | .scalar _ _ s =>
      match if s.admits "bool" then Scalar.bool? s.text else none with
      | some b => .ok b
      | none => wrongScalar s "a boolean"
    | t => wrongNode t "a boolean"

def flavorOfLabel (label : String) : Result Flavor :=
  match Flavor.ofLabel? label with
  | some f => .ok f
  | none =>
    fail ("unknown variant \x60" ++ label ++ "\x60, expected \x60" ++ Flavor.posix.label
      ++ "\x60 or \x60" ++ Flavor.sysV.label ++ "\x60")

/-- The label that a tag of the document's own gives. -/
def labelOfTag (tag : Option Tag) : Option String :=
  match tag with
  | some (0x21 :: rest) => Text.Utf8.decode (if rest.isEmpty then [0x21] else rest)
  | _ => none

def tagOf : Node → Option Tag
  | .scalar _ _ s => s.tag
  | .sequence _ _ t _ | .mapping _ _ t _ => t
  | .alias .. | .cut => none

/-- What stands behind a tag that is a label already: nothing. -/
def nothing : Node → Result Unit
  | .scalar _ _ s =>
    if s.style = .plain && (s.text.isEmpty || Scalar.isNull s.text) then .ok ()
    else wrongValue (Meaning.text s.text).description "null"
  | n => wrongNode n "unit"

/-- The flavor: a label as a scalar, or as a tag with nothing behind it. A fault of such a tag is
placed further out. -/
def flavor (d : Document) (path : String) (n : Node) : Result Flavor :=
  let t := target d n
  let result : Result Flavor := match labelOfTag (tagOf t) with
    | some label => do
      let f ← flavorOfLabel label
      within path (markOf t) (nothing t)
      return f
    | none =>
      within path (markOf t) <| match t with
        | .scalar _ _ s => flavorOfLabel s.text
        | t => wrongNode t "a YAML tag starting with '!'"
  match n with
  | .alias m _ => within path m result
  | _ => result

/-- The settings of a document, as far as they are given. -/
structure Draft where
  flavor : Option Flavor
  lockPages : Option Bool
  mode : Option UInt32

def Draft.empty : Draft := ⟨none, none, none⟩

/-- The settings of a draft, what is missing from the standard ones. -/
def Draft.config (d : Draft) : Config :=
  { flavor := d.flavor.getD standard.flavor
    lockPages := d.lockPages.getD standard.lockPages
    mode := d.mode.getD standard.mode }

def once {α : Type} (name : String) : Option α → Result Unit
  | some _ => fail ("duplicate field \x60" ++ name ++ "\x60")
  | none => .ok ()

def ignore (n : Node) : Result Unit :=
  if n.isWhole then .ok () else .error .cut

def setting (d : Document) (path : String) (draft : Draft) (entry : Node × Node) :
    Result Draft := do
  let (name, inner) ← key d path entry.1
  match name with
  | "flavor" =>
    once name draft.flavor
    return { draft with flavor := some (← flavor d inner entry.2) }
  | "lock_pages" =>
    once name draft.lockPages
    return { draft with lockPages := some (← truth d inner entry.2) }
  | "mode" =>
    once name draft.mode
    return { draft with mode := some (← mode d inner entry.2) }
  | _ =>
    ignore entry.2
    return draft

/-- The entries of a mapping read one by one; nothing counts as an empty mapping. -/
def mapping {α : Type} (d : Document) (path expected : String) (empty : α)
    (entry : α → Node × Node → Result α) (n : Node) : Result α :=
  ofTarget d path n fun t =>
    match t with
    | .mapping _ _ _ entries => entries.foldlM entry empty
    | .scalar _ _ s =>
      if s.text.isEmpty && s.style = .plain then .ok empty else wrongScalar s expected
    | t => wrongNode t expected

def segment (d : Document) (path : String) (n : Node) : Result Draft :=
  mapping d path "struct RawSegmentConfig" .empty (setting d path) n

def rootEntry (d : Document) (draft : Option Draft) (entry : Node × Node) :
    Result (Option Draft) := do
  let (name, inner) ← key d "" entry.1
  match name with
  | "segment" =>
    once name draft
    return some (← segment d inner entry.2)
  | _ =>
    ignore entry.2
    return draft

def root (d : Document) (n : Node) : Result Draft := do
  let draft ← mapping d "" "struct RawConfig" none (rootEntry d) n
  return draft.getD .empty

end Reading

/-- The settings in a document, not yet validated. -/
def ofDocument (d : Document) : Except DocumentFault Config :=
  let draft := match d.root with
    | some n => Reading.root d n
    | none => .ok .empty
  match draft, d.failure with
  | .error (.fault sentence place), _ =>
    let (path, mark) := place.getD ("", .zero)
    .error (.value ⟨sentence, path, mark⟩)
  | _, some b => .error (.malformed b)
  | .error .cut, none => .error .several
  | .ok draft, none => if d.isFollowed then .error .several else .ok draft.config

end SharedSegment.Config
