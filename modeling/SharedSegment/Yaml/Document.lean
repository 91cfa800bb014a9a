import SharedSegment.Yaml.Event.Grammar
import SharedSegment.Yaml.Node

/-!
# Documents

What a text holds: at most one document is read; a second one is only noticed. A text with a
character that may not occur holds nothing. One byte order mark in front is passed over.
-/

namespace SharedSegment.Yaml

/-- What a text holds. -/
structure Document where
  /-- The tree, if there is any document. -/
  root : Option Node
  /-- Why the document broke off, if it did. -/
  failure : Option Break
  /-- Whether something follows the document. -/
  isFollowed : Bool

/-- Whether a character may occur in a text. -/
def isAllowed (c : Char) : Bool :=
  let n := c.toNat
  n == 0x09 || n == 0x0A || n == 0x0D || 0x20 ≤ n && n ≤ 0x7E || n == 0x85
    || 0xA0 ≤ n && n ≤ 0xD7FF || 0xE000 ≤ n && n ≤ 0xFFFD || 0x10000 ≤ n

/-- The byte offset of the first character that may not occur. -/
def forbidden? (offset : Nat) : List Char → Option Nat
  | [] => none
  | c :: r => if isAllowed c then forbidden? (offset + c.utf8Size) r else some offset

namespace Document

/-- A document that broke off at once. -/
def broken (b : Break) : Document :=
  ⟨some .cut, some b, false⟩

/-- The document in a text without its byte order mark. -/
def ofChars (cs : List Char) : Document :=
  let start : Grammar.State :=
    ⟨.ofCursor ⟨cs, .zero⟩, Grammar.standardHandles, [], []⟩
  match (Grammar.document (10 * (cs.length + 10))).run start with
  | (.error b, s) => ⟨some (.ofEvents s.events.reverse), some b, false⟩
  | (.ok (), s) =>
    if s.events.isEmpty then ⟨none, none, false⟩
    else
      ⟨some (.ofEvents s.events.reverse), none,
        Grammar.isFollowed (cs.length + 2) s.tokens⟩

def ofText (text : String) : Document :=
  let (lead, cs) := match text.toList with
    | '\uFEFF' :: r => (3, r)
    | cs => (0, cs)
  match forbidden? lead cs with
  | some offset =>
    .broken (.problem ⟨"control characters are not allowed", .zero, none, offset⟩)
  | none => ofChars cs

/-- The node that an anchor stands for: the last one that was given its number. -/
def anchored? (d : Document) (anchor : Nat) : Option Node :=
  d.root.bind fun n => n.anchored.reverse.lookup anchor

end Document
end SharedSegment.Yaml
