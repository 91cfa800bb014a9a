import SharedSegment.Text.Utf8
import SharedSegment.Yaml.Cursor
import SharedSegment.Yaml.Problem
import SharedSegment.Yaml.Token

/-!
# Tags and anchors

A tag is written in full between angle brackets, or as a handle and a suffix. Octets of a suffix
may be written with a percent sign. An octet zero ends a tag.
-/

namespace SharedSegment.Yaml

/-- The name behind `&` or `*`, and the cursor behind it. -/
def anchorName (what : String) (c : Cursor) : Except Problem (String × Cursor) :=
  let (name, d) := (c.skip 1).takeWhile isWordChar
  let closed := match d.peek with
    | some x => endsWord (some x) || "?:,]\x7d%@\x60".toList.contains x
    | none => true
  if name.isEmpty || !closed then
    .error (.within ("while scanning an " ++ what) c.mark
      "did not find expected alphabetic or numeric character" d.mark)
  else .ok (String.ofList name, d)

namespace Tag

/-- Where a part of a tag is read: in a node or in a directive. -/
inductive Place where
  | node
  | directive
deriving DecidableEq

/-- What is read while a handle is scanned. -/
def Place.scanning : Place → String
  | .node => "while scanning a tag"
  | .directive => "while scanning a tag directive"

/-- What is read while a suffix is parsed. -/
def Place.parsing : Place → String
  | .node => "while parsing a tag"
  | .directive => "while parsing a %TAG directive"

/-- Length of the UTF-8 form that an octet begins, zero if it begins none. -/
def leadWidth (octet : Nat) : Nat :=
  if octet < 0x80 then 1
  else if octet / 32 = 6 then 2
  else if octet / 16 = 14 then 3
  else if octet / 8 = 30 then 4
  else 0

/-- The octet written at the cursor with a percent sign. -/
def octet? (c : Cursor) : Option Nat :=
  match c.rest with
  | '%' :: h :: l :: _ => (hexDigit? h).bind fun h => (hexDigit? l).map fun l => h * 16 + l
  | _ => none

def continuation (place : Place) (start : Mark) :
    Nat → Cursor → Except Problem (List UInt8 × Cursor)
  | 0, c => .ok ([], c)
  | n + 1, c =>
    match octet? c with
    | none =>
      .error (.within place.parsing start "did not find URI escaped octet" c.mark)
    | some o =>
      if o / 64 = 2 then do
        let (bs, c) ← continuation place start n (c.skip 3)
        return (UInt8.ofNat o :: bs, c)
      else
        .error (.within place.parsing start "found an incorrect trailing UTF-8 octet" c.mark)

def escaped (place : Place) (start : Mark) (c : Cursor) : Except Problem (List UInt8 × Cursor) :=
  match octet? c with
  | none => .error (.within place.parsing start "did not find URI escaped octet" c.mark)
  | some o =>
    if leadWidth o = 0 then
      .error (.within place.parsing start "found an incorrect leading UTF-8 octet" c.mark)
    else do
      let (bs, c) ← continuation place start (leadWidth o - 1) (c.skip 3)
      return (UInt8.ofNat o :: bs, c)

/-- Whether a character may stand in a tag; brackets and commas only where they cannot be
structure. -/
def isUriChar (full : Bool) (c : Char) : Bool :=
  isWordChar c || ";/?:@&=+$.%!~*'()".toList.contains c || full && ",[]".toList.contains c

/-- The octets of a tag up to the first character that cannot be one. -/
def uri (full : Bool) (place : Place) (start : Mark) :
    Nat → Cursor → Except Problem (List UInt8 × Cursor)
  | 0, c => .ok ([], c)
  | fuel + 1, c =>
    match c.peek with
    | none => .ok ([], c)
    | some x =>
      if !isUriChar full x then .ok ([], c)
      else if x == '%' then do
        let (bs, c) ← escaped place start c
        let (rest, c) ← uri full place start fuel c
        return (bs ++ rest, c)
      else do
        let (rest, c) ← uri full place start fuel (c.skip 1)
        return (UInt8.ofNat x.toNat :: rest, c)

/-- The octets of a tag, behind what its handle has given already. At least one character is
required. -/
def suffix (full : Bool) (place : Place) (start : Mark) (head : List Char) (c : Cursor) :
    Except Problem (List UInt8 × Cursor) := do
  let (bs, d) ← uri full place start (c.rest.length + 1) c
  if head.isEmpty && d.mark.index = c.mark.index then
    .error (.within place.parsing start "did not find expected tag URI" d.mark)
  let all := Text.Utf8.encode (head.drop 1) ++ bs
  return (all.takeWhile (· ≠ 0), d)

/-- A handle: an exclamation mark, word characters, and a second mark if there is one. -/
def handle (place : Place) (start : Mark) (c : Cursor) : Except Problem (List Char × Cursor) :=
  if !c.at? '!' then .error (.within place.scanning start "did not find expected '!'" c.mark)
  else
    let (name, d) := (c.skip 1).takeWhile isWordChar
    if d.at? '!' then .ok ('!' :: name ++ ['!'], d.skip 1)
    else if place = .directive && !name.isEmpty then
      .error (.within "while parsing a tag directive" start "did not find expected '!'" d.mark)
    else .ok ('!' :: name, d)

/-- Whether a handle is closed by a second mark. -/
def isClosed (handle : List Char) : Bool :=
  handle.length > 1 && handle.getLast? == some '!'

/-- Handle and suffix of a tag, and the cursor behind it. -/
def read (flow : Bool) (c : Cursor) : Except Problem ((String × Tag) × Cursor) := do
  let start := c.mark
  let (parts, d) ← do
    if c.peekAt 1 == some '<' then
      let (bs, d) ← suffix true .node start [] (c.skip 2)
      if !d.at? '>' then
        .error (.within "while scanning a tag" start "did not find the expected '>'" d.mark)
      pure (("", bs), d.skip 1)
    else
      let (h, d) ← handle .node start c
      if isClosed h then
        let (bs, d) ← suffix false .node start [] d
        pure ((String.ofList h, bs), d)
      else
        let (bs, d) ← suffix false .node start h d
        pure (if bs.isEmpty then (("", [0x21]), d) else (("!", bs), d))
  if endsWord d.peek || flow && d.at? ',' then return (parts, d)
  else
    .error (.within "while scanning a tag" start
      "did not find expected whitespace or line break" d.mark)

end Tag
end SharedSegment.Yaml
