import SharedSegment.Yaml.Problem
import SharedSegment.Yaml.Token.Gap

/-!
# Block scalars

A literal scalar keeps its line breaks, a folded one joins lines that begin with a word. The header
may fix the indentation and what becomes of the breaks at the end; otherwise the first line with
content fixes the indentation, and one break is kept.
-/

namespace SharedSegment.Yaml.Block

/-- What becomes of the breaks at the end. -/
inductive Chomping where
  | clip
  | strip
  | keep
deriving DecidableEq

/-- The chomping that an indicator asks for. -/
def chomping? : Option Char → Option Chomping
  | some '+' => some .keep
  | some '-' => some .strip
  | _ => none

def digit? (c : Cursor) : Option Nat :=
  match c.peek with
  | some d => if d.isDigit then some (d.toNat - '0'.toNat) else none
  | none => none

def fail {α : Type} (start : Mark) (sentence : String) (c : Cursor) : Except Problem α :=
  .error (.within "while scanning a block scalar" start sentence c.mark)

/-- An indentation indicator, zero if there is none. -/
def increment (start : Mark) (c : Cursor) : Except Problem (Nat × Cursor) :=
  match digit? c with
  | none => .ok (0, c)
  | some 0 => fail start "found an indentation indicator equal to 0" c
  | some d => .ok (d, c.skip 1)

/-- The header behind the first indicator: chomping and indentation, in either order. -/
def header (start : Mark) (c : Cursor) : Except Problem (Chomping × Nat × Cursor) :=
  match chomping? c.peek with
  | some k => do
    let (n, c) ← increment start (c.skip 1)
    return (k, n, c)
  | none => do
    let (n, c) ← increment start c
    if n = 0 then return (.clip, 0, c)
    match chomping? c.peek with
    | some k => return (k, n, c.skip 1)
    | none => return (.clip, n, c)

/-- Reads indentation and empty lines: their breaks, the deepest column seen, and where the last
break ended. While the indentation is not known yet (zero), all leading spaces belong to it. -/
def emptyLines (start : Mark) (indent : Nat) :
    Nat → List Char → Nat → Mark → Cursor → Except Problem (List Char × Nat × Mark × Cursor)
  | 0, breaks, deepest, stop, c => .ok (breaks, deepest, stop, c)
  | fuel + 1, breaks, deepest, stop, c =>
    let spaces := (c.rest.takeWhile (· == ' ')).length
    let c := c.skip (if indent = 0 then spaces else min spaces (indent - c.mark.column))
    let deepest := max deepest c.mark.column
    if (indent = 0 || c.mark.column < indent) && c.at? '\t' then
      fail start "found a tab character where an indentation space is expected" c
    else if c.atBreak then
      let (b, c) := c.takeBreak
      emptyLines start indent fuel (breaks ++ b) deepest c.mark c
    else .ok (breaks, deepest, stop, c)

/-- The text between the line before and the line that begins at the cursor. -/
def join (folded leadingBlank startsBlank : Bool) (first more : List Char) : List Char :=
  if folded && first.head? == some '\n' && !leadingBlank && !startsBlank then
    if more.isEmpty then [' '] else more
  else first ++ more

/-- The lines of the content, as pieces in reverse, with the breaks behind the last one. -/
def lines (folded : Bool) (start : Mark) (indent : Nat) :
    Nat → List (List Char) → Bool → List Char → List Char → Mark → Cursor →
      Except Problem (List (List Char) × List Char × List Char × Mark × Cursor)
  | 0, acc, _, first, more, stop, c => .ok (acc, first, more, stop, c)
  | fuel + 1, acc, leadingBlank, first, more, stop, c =>
    if c.mark.column = indent && !c.rest.isEmpty then
      let startsBlank := c.atBlank
      let gap := join folded leadingBlank startsBlank first more
      let (line, c) := c.takeWhile fun x => !isBreak x
      let (first, c) := c.takeBreak
      match emptyLines start indent (c.rest.length + 1) [] 0 c.mark c with
      | .error p => .error p
      | .ok (more, _, stop, c) =>
        lines folded start indent fuel (line :: gap :: acc) startsBlank first more stop c
    else .ok (acc, first, more, stop, c)

/-- A block scalar within a block of some indentation: its text, where it ends, and the cursor
behind it. -/
def read (folded : Bool) (parent : Int) (c : Cursor) : Except Problem (String × Mark × Cursor) := do
  let start := c.mark
  let (chomping, n, c) ← header start (c.skip 1)
  let c := (c.skipWhile isBlank).skipComment
  if !endsLine c.peek then
    fail start "did not find expected comment or line break" c
  let c := c.skipBreak
  let given := if n = 0 then 0 else if parent < 0 then n else parent.toNat + n
  let (breaks, deepest, stop, c) ← emptyLines start given (c.rest.length + 1) [] 0 c.mark c
  -- Without an indicator the first line with content decides.
  let indent := if given = 0 then max deepest (max (parent + 1).toNat 1) else given
  let (acc, first, more, stop, c) ←
    lines folded start indent (c.rest.length + 1) [] false [] breaks stop c
  let tail := match chomping with
    | .strip => []
    | .clip => first
    | .keep => first ++ more
  return (String.ofList (acc.reverse.flatten ++ tail), stop, c)

end SharedSegment.Yaml.Block
