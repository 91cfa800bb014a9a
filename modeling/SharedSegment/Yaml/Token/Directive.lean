import SharedSegment.Yaml.Token.Tag

/-!
# Directives

A line that begins with a percent sign sets the version of the language or the meaning of a tag
handle for the document that follows. No other directive is known.
-/

namespace SharedSegment.Yaml.Directive

def fail {α : Type} (what : String) (start : Mark) (sentence : String) (c : Cursor) :
    Except Problem α :=
  .error (.within what start sentence c.mark)

/-- The longest number of digits in a version. -/
def maxDigits : Nat := 9

def number (start : Mark) (c : Cursor) : Except Problem (Nat × Cursor) :=
  let (digits, d) := c.takeWhile Char.isDigit
  let what := "while scanning a %YAML directive"
  if digits.length > maxDigits then
    fail what start "found extremely long version number" (c.skip maxDigits)
  else if digits.isEmpty then fail what start "did not find expected version number" d
  else .ok (digits.foldl (fun n x => n * 10 + (x.toNat - '0'.toNat)) 0, d)

def version (start : Mark) (c : Cursor) : Except Problem (Token.Kind × Cursor) := do
  let (major, c) ← number start (c.skipWhile isBlank)
  if !c.at? '.' then
    fail "while scanning a %YAML directive" start
      "did not find expected digit or '.' character" c
  let (minor, c) ← number start (c.skip 1)
  return (.version major minor, c)

def shorthand (start : Mark) (c : Cursor) : Except Problem (Token.Kind × Cursor) := do
  let what := "while scanning a %TAG directive"
  let (handle, c) ← Tag.handle .directive start (c.skipWhile isBlank)
  if !c.atBlank then fail what start "did not find expected whitespace" c
  let (lead, c) ← Tag.suffix true .directive start [] (c.skipWhile isBlank)
  if !endsWord c.peek then fail what start "did not find expected whitespace or line break" c
  return (.tagShorthand (String.ofList handle) lead, c)

/-- A directive: its token and the cursor on the next line. -/
def read (c : Cursor) : Except Problem (Token × Cursor) := do
  let start := c.mark
  let what := "while scanning a directive"
  let (name, c) := (c.skip 1).takeWhile isWordChar
  if name.isEmpty then fail what start "could not find expected directive name" c
  if !endsWord c.peek then fail what start "found unexpected non-alphabetical character" c
  let (kind, c) ←
    if name = "YAML".toList then version start c
    else if name = "TAG".toList then shorthand start c
    else fail what start "found unknown directive name" c
  let stop := c.mark
  let c := (c.skipWhile isBlank).skipComment
  if !endsLine c.peek then fail what start "did not find expected comment or line break" c
  return (⟨kind, start, stop⟩, c.skipBreak)

end SharedSegment.Yaml.Directive
