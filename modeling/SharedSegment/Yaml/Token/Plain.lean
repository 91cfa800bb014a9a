import SharedSegment.Yaml.Problem
import SharedSegment.Yaml.Token.Gap

/-!
# Plain scalars

A scalar without quotes: words and the gaps between them, up to a comment, a document marker, a
line that is indented too little, or an indicator that ends a word.
-/

namespace SharedSegment.Yaml.Plain

/-- Whether a colon before this character is refused within brackets. -/
def clashes : Option Char → Bool
  | some c => c == ',' || c == '?' || c == '[' || c == ']' || c == '{' || c == '}'
  | none => false

/-- Whether a character ends a word within brackets. -/
def endsInFlow (c : Char) : Bool :=
  c == ',' || c == '[' || c == ']' || c == '{' || c == '}'

/-- The next word. A colon that is refused is answered with the number of characters before it. -/
def word (flow : Bool) : List Char → Except Nat (List Char)
  | [] => .ok []
  | c :: r =>
    if endsWord (some c) then .ok []
    else if flow && c == ':' && clashes r.head? then .error 0
    else if c == ':' && endsWord r.head? || flow && endsInFlow c then .ok []
    else
      match word flow r with
      | .ok w => .ok (c :: w)
      | .error n => .error (n + 1)

/-- The words that follow, as pieces in reverse, the gap behind them, and where the last ends. -/
def words (flow : Bool) (indent : Nat) (start : Mark) :
    Nat → List (List Char) → Gap → Mark → Cursor →
      Except Problem (List (List Char) × Gap × Mark × Cursor)
  | 0, acc, gap, stop, c => .ok (acc, gap, stop, c)
  | fuel + 1, acc, gap, stop, c =>
    if c.atDocumentMarker || c.at? '#' then .ok (acc, gap, stop, c)
    else
      match word flow c.rest with
      | .error n =>
        .error (.within "while scanning a plain scalar" start "found unexpected ':'"
          (c.mark.forward n))
      | .ok w =>
        let c := c.skip w.length
        let acc := if w.isEmpty then acc else w :: gap.text :: acc
        let stop := if w.isEmpty then stop else c.mark
        let gap := if w.isEmpty then gap else Gap.none
        if !(c.atBlank || c.atBreak) then .ok (acc, gap, stop, c)
        else
          match gap.read indent c.rest.length c with
          | .error m =>
            .error (.within "while scanning a plain scalar" start
              "found a tab character that violates indentation" m)
          | .ok (gap, c) =>
            if !flow && c.mark.column < indent then .ok (acc, gap, stop, c)
            else words flow indent start fuel acc gap stop c

/-- A plain scalar: its text, whether a new line has begun behind it, where it ends, and the
cursor behind it. -/
def read (flow : Bool) (indent : Nat) (c : Cursor) :
    Except Problem (String × Bool × Mark × Cursor) :=
  match words flow indent c.mark (c.rest.length + 1) [] .none c.mark c with
  | .error p => .error p
  | .ok (acc, gap, stop, c) =>
    .ok (String.ofList acc.reverse.flatten, gap.broken, stop, c)

end SharedSegment.Yaml.Plain
