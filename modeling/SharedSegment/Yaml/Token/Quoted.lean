import SharedSegment.Yaml.Problem
import SharedSegment.Yaml.Token.Gap

/-!
# Quoted scalars

Between single quotes only a doubled quote is special; between double quotes a backslash begins an
escape. Gaps fold as in plain scalars; a backslash before a break drops the break.
-/

namespace SharedSegment.Yaml.Quoted

/-- The two forms of quotes. -/
inductive Form where
  | single
  | double
deriving DecidableEq

def Form.quote : Form → Char
  | .single => '\''
  | .double => '"'

/-- What stands behind a backslash: a character, or a number of hexadecimal digits. -/
inductive Escape where
  | char (c : Char)
  | code (digits : Nat)

/-- The escape that a character behind a backslash begins. -/
def escape? : Char → Option Escape
  | '0' => some (.char '\x00')
  | 'a' => some (.char '\x07')
  | 'b' => some (.char '\x08')
  | 't' => some (.char '\t')
  | '\t' => some (.char '\t')
  | 'n' => some (.char '\n')
  | 'v' => some (.char '\x0b')
  | 'f' => some (.char '\x0c')
  | 'r' => some (.char '\r')
  | 'e' => some (.char '\x1b')
  | ' ' => some (.char ' ')
  | '"' => some (.char '"')
  | '/' => some (.char '/')
  | '\\' => some (.char '\\')
  | 'N' => some (.char '\x85')
  | '_' => some (.char '\xa0')
  | 'L' => some (.char '\u2028')
  | 'P' => some (.char '\u2029')
  | 'x' => some (.code 2)
  | 'u' => some (.code 4)
  | 'U' => some (.code 8)
  | _ => none

/-- The number that the given count of hexadecimal digits at the head of a text form. -/
def hexNumber : Nat → Nat → List Char → Option Nat
  | 0, acc, _ => some acc
  | n + 1, acc, c :: r => (hexDigit? c).bind fun d => hexNumber n (acc * 16 + d) r
  | _ + 1, _, [] => none

/-- Whether a number is that of a character. -/
def isScalarValue (n : Nat) : Bool :=
  n < 0xD800 || 0xE000 ≤ n && n < 0x110000

/-- How a run of characters within quotes ends. -/
inductive Stop where
  /-- At a blank, a break, the closing quote or the end. -/
  | word
  /-- Behind an escaped break. -/
  | escapedBreak

/-- The characters up to the next gap or the closing quote, in reverse onto those before. -/
def run (form : Form) (start : Mark) :
    Nat → List Char → Cursor → Except Problem (List Char × Stop × Cursor)
  | 0, acc, c => .ok (acc, .word, c)
  | fuel + 1, acc, c =>
    let fail (sentence : String) (at_ : Mark) : Except Problem (List Char × Stop × Cursor) :=
      .error (.within "while parsing a quoted scalar" start sentence at_)
    match c.rest with
    | [] => .ok (acc, .word, c)
    | x :: r =>
      if endsWord (some x) then .ok (acc, .word, c)
      else if form = .single && x == '\'' && r.head? == some '\'' then
        run form start fuel ('\'' :: acc) (c.skip 2)
      else if x == form.quote then .ok (acc, .word, c)
      else if form = .double && x == '\\' then
        match r with
        | [] => fail "found unknown escape character" c.mark
        | y :: r' =>
          if isBreak y then .ok (acc, .escapedBreak, (c.skip 1).skipBreak)
          else
            match escape? y with
            | none => fail "found unknown escape character" c.mark
            | some (.char z) => run form start fuel (z :: acc) (c.skip 2)
            | some (.code n) =>
              match hexNumber n 0 r' with
              | none => fail "did not find expected hexdecimal number" (c.skip 2).mark
              | some v =>
                if isScalarValue v then
                  run form start fuel (Char.ofNat v :: acc) (c.skip (2 + n))
                else fail "found invalid Unicode character escape code" (c.skip 2).mark
      else run form start fuel (x :: acc) (c.skip 1)

/-- The runs and gaps up to the closing quote, in reverse onto those before. -/
def runs (form : Form) (start : Mark) :
    Nat → List Char → Cursor → Except Problem (List Char × Cursor)
  | 0, acc, c => .ok (acc, c)
  | fuel + 1, acc, c =>
    if c.atDocumentMarker then
      .error (.within "while scanning a quoted scalar" start
        "found unexpected document indicator" c.mark)
    else if c.rest.isEmpty then
      .error (.within "while scanning a quoted scalar" start
        "found unexpected end of stream" c.mark)
    else
      match run form start (c.rest.length + 1) acc c with
      | .error p => .error p
      | .ok (acc, stop, c) =>
        if c.at? form.quote then .ok (acc, c)
        else
          let gap : Gap := match stop with
            | .word => .none
            | .escapedBreak => .escaped
          match gap.read 0 c.rest.length c with
          | .error m =>
            .error (.within "while scanning a quoted scalar" start
              "found unexpected end of stream" m)
          | .ok (gap, c) => runs form start fuel (gap.text.reverse ++ acc) c

/-- A quoted scalar: its text and the cursor behind it. -/
def read (form : Form) (c : Cursor) : Except Problem (String × Cursor) :=
  match runs form c.mark (c.rest.length + 1) [] (c.skip 1) with
  | .error p => .error p
  | .ok (acc, c) => .ok (String.ofList acc.reverse, c.skip 1)

end SharedSegment.Yaml.Quoted
