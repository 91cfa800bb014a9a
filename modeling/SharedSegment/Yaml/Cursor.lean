import SharedSegment.Yaml.Mark

/-!
# Reading a text character by character

Character classes, and a cursor: what is left of a text and where it begins. The end of the text
counts with blanks and breaks where a class says so.
-/

namespace SharedSegment.Yaml

def isBlank (c : Char) : Bool :=
  c == ' ' || c == '\t'

def isBreak (c : Char) : Bool :=
  c == '\n' || c == '\r' || c == '\x85' || c == '\u2028' || c == '\u2029'

/-- A break, or the end of the text. -/
def endsLine : Option Char → Bool
  | some c => isBreak c
  | none => true

/-- A blank, a break, or the end of the text. -/
def endsWord : Option Char → Bool
  | some c => isBlank c || isBreak c
  | none => true

/-- A letter, a digit, a dash or an underscore, of ASCII. -/
def isWordChar (c : Char) : Bool :=
  c.isAlphanum || c == '_' || c == '-'

def hexDigit? (c : Char) : Option Nat :=
  if '0' ≤ c ∧ c ≤ '9' then some (c.toNat - '0'.toNat)
  else if 'a' ≤ c ∧ c ≤ 'f' then some (c.toNat - 'a'.toNat + 10)
  else if 'A' ≤ c ∧ c ≤ 'F' then some (c.toNat - 'A'.toNat + 10)
  else none

/-- What is left of a text, and where it begins. -/
structure Cursor where
  rest : List Char
  mark : Mark

namespace Cursor

def peek (c : Cursor) : Option Char :=
  c.rest.head?

def peekAt (c : Cursor) (n : Nat) : Option Char :=
  c.rest[n]?

/-- Whether the next character is a given one. -/
def at? (c : Cursor) (x : Char) : Bool :=
  c.peek == some x

/-- Whether the next character is a blank. -/
def atBlank (c : Cursor) : Bool :=
  c.peek.any isBlank

/-- Whether the next character ends a line. -/
def atBreak (c : Cursor) : Bool :=
  c.peek.any isBreak

/-- Moves over some characters of one line. -/
def skip (c : Cursor) (n : Nat) : Cursor :=
  ⟨c.rest.drop n, c.mark.forward n⟩

/-- Moves over the characters of one line that are in a class. -/
def skipWhile (p : Char → Bool) (c : Cursor) : Cursor :=
  c.skip (c.rest.takeWhile p).length

/-- The characters of one line that are in a class, and the cursor behind them. -/
def takeWhile (p : Char → Bool) (c : Cursor) : List Char × Cursor :=
  let word := c.rest.takeWhile p
  (word, c.skip word.length)

/-- Reads one line break. All but the separators of lines and paragraphs become a line feed. -/
def takeBreak (c : Cursor) : List Char × Cursor :=
  match c.rest with
  | '\r' :: '\n' :: r => (['\n'], ⟨r, c.mark.nextLine 2⟩)
  | b :: r =>
    if b == '\u2028' || b == '\u2029' then ([b], ⟨r, c.mark.nextLine 1⟩)
    else if isBreak b then (['\n'], ⟨r, c.mark.nextLine 1⟩)
    else ([], c)
  | [] => ([], c)

def skipBreak (c : Cursor) : Cursor :=
  c.takeBreak.2

/-- Moves to the end of the line. -/
def skipComment (c : Cursor) : Cursor :=
  if c.at? '#' then c.skipWhile (fun x => !isBreak x) else c

/-- Whether a document marker made of one character stands here, alone on the line's start. -/
def atMarker (c : Cursor) (x : Char) : Bool :=
  c.mark.column == 0 && c.rest.take 3 == [x, x, x] && endsWord (c.peekAt 3)

def atDocumentMarker (c : Cursor) : Bool :=
  c.atMarker '-' || c.atMarker '.'

end Cursor
end SharedSegment.Yaml
