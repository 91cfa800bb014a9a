import SharedSegment.Decimal.Shortest
import SharedSegment.Diagnostic
import SharedSegment.Text.Utf8
import SharedSegment.Yaml.Event

/-!
# What a scalar means

A plain scalar may be null, a truth value, an integer in one of four bases, or a decimal; anything
else, and every quoted scalar, is text. Some tags ask for a meaning and fail where the text has
another.
-/

namespace SharedSegment.Yaml

/-- A number of double precision, or one of the three that are not finite. -/
inductive Real where
  | finite (negative : Bool) (magnitude : Decimal.Binary64)
  | infinite (negative : Bool)
  | notANumber

def Real.text : Real → String
  | .finite negative b => (if negative then "-" else "") ++ b.text
  | .infinite negative => if negative then "-inf" else "inf"
  | .notANumber => "NaN"

/-- What a scalar means. -/
inductive Meaning where
  | null
  | bool (b : Bool)
  | int (n : Int)
  | real (x : Real)
  | text (s : String)

namespace Meaning

/-- Whether an integer needs more than 64 bits. -/
def isWide (n : Int) : Bool :=
  n < -twoTo 63 || twoTo 64 ≤ n

/-- A meaning in messages about a value that has the wrong one. -/
def description : Meaning → String
  | .null => "unit value"
  | .bool b => "boolean \x60" ++ (if b then "true" else "false") ++ "\x60"
  | .int n =>
    "integer \x60" ++ toString n ++ "\x60"
      ++ if isWide n then (if n < 0 then " as i128" else " as u128") else ""
  | .real x => "floating point \x60" ++ x.text ++ "\x60"
  | .text s => "string " ++ Diagnostic.text s

end Meaning

namespace Scalar

def isNull (s : String) : Bool :=
  s == "null" || s == "Null" || s == "NULL" || s == "~"

/-- The truth value that a text stands for. -/
def bool? (s : String) : Option Bool :=
  if s == "true" || s == "True" || s == "TRUE" then some true
  else if s == "false" || s == "False" || s == "FALSE" then some false
  else none

/-- The value of a digit in bases up to sixteen. -/
def digit? (base : Nat) (c : Char) : Option Nat :=
  let d := if '0' ≤ c ∧ c ≤ '9' then some (c.toNat - '0'.toNat)
    else if 'a' ≤ c ∧ c ≤ 'f' then some (c.toNat - 'a'.toNat + 10)
    else if 'A' ≤ c ∧ c ≤ 'F' then some (c.toNat - 'A'.toNat + 10)
    else none
  d.filter (· < base)

/-- The number that some digits form. There is at least one. -/
def digits? (base : Nat) (cs : List Char) : Option Nat :=
  if cs.isEmpty then none
  else cs.foldlM (fun n c => (digit? base c).map (n * base + ·)) 0

/-- Whether a text is a zero with further digits behind it, perhaps with a sign: such a text is no
number. -/
def hasLeadingZero (cs : List Char) : Bool :=
  let ds := match cs with
    | '-' :: r | '+' :: r => r
    | _ => cs
  ds.length > 1 && ds.head? == some '0' && ds.all Char.isDigit

/-- The number that digits behind a mark of their base form. -/
def based? : List Char → Option Nat
  | '0' :: 'x' :: r => digits? 16 r
  | '0' :: 'o' :: r => digits? 8 r
  | '0' :: 'b' :: r => digits? 2 r
  | _ => none

/-- A text without one plus sign in front. -/
def unsigned : List Char → List Char
  | '+' :: r => r
  | cs => cs

/-- The number that a text without a minus sign forms. -/
def natural? (cs : List Char) : Option Nat :=
  (based? (unsigned cs)).or
    (if hasLeadingZero cs then none else digits? 10 (unsigned cs))

/-- The number that a text with a minus sign forms. -/
def negative? : List Char → Option Int
  | '-' :: r =>
    ((based? r).or (if hasLeadingZero r then none else digits? 10 r)).map fun n => -(n : Int)
  | _ => none

/-- The integer that a text forms, within 128 bits. -/
def int? (cs : List Char) : Option Int :=
  let n := ((natural? cs).map Int.ofNat).or (negative? cs)
  n.filter fun n => -twoTo 127 ≤ n && n < twoTo 128

/-- The exponent of a decimal: nothing, or a letter, perhaps a sign, and digits. -/
def exponent? : List Char → Option Int
  | [] => some 0
  | e :: r =>
    if e == 'e' || e == 'E' then
      match r with
      | '-' :: ds => (digits? 10 ds).map fun n => -(n : Int)
      | '+' :: ds => (digits? 10 ds).map Int.ofNat
      | ds => (digits? 10 ds).map Int.ofNat
    else none

/-- The magnitude of a decimal: digits, perhaps with a point somewhere, and an exponent. -/
def magnitude? (cs : List Char) : Option Decimal.Binary64 :=
  let whole := cs.takeWhile Char.isDigit
  let rest := cs.dropWhile Char.isDigit
  let (part, rest) := match rest with
    | '.' :: r => (r.takeWhile Char.isDigit, r.dropWhile Char.isDigit)
    | r => ([], r)
  if whole.isEmpty && part.isEmpty then none
  else do
    let e ← exponent? rest
    let n ← digits? 10 (whole ++ part)
    Decimal.Binary64.ofDecimal n (e - part.length)

/-- Whether a text begins with a sign. -/
def isSigned : List Char → Bool
  | '+' :: _ | '-' :: _ => true
  | _ => false

/-- The number of double precision that a text forms. -/
def real? (s : String) : Option Real :=
  let cs := s.toList
  let positive := match cs with
    | '+' :: r => if isSigned r then none else some r
    | _ => some cs
  match positive with
  | none => none
  | some p =>
    if [".inf", ".Inf", ".INF"].contains (String.ofList p) then some (.infinite false)
    else if ["-.inf", "-.Inf", "-.INF"].contains s then some (.infinite true)
    else if [".nan", ".NaN", ".NAN"].contains s then some .notANumber
    else
      match p with
      | '-' :: r => (magnitude? r).map (.finite true)
      | r => (magnitude? r).map (.finite false)

def plainMeaning (s : String) : Meaning :=
  if s.isEmpty || isNull s then .null
  else
    match bool? s with
    | some b => .bool b
    | none =>
      match int? s.toList with
      | some n => .int n
      | none =>
        match if hasLeadingZero s.toList then none else real? s with
        | some x => .real x
        | none => .text s

/-- The tag of a kind of values that every document knows. -/
def coreTag (name : String) : Tag :=
  ("tag:yaml.org,2002:" ++ name).toUTF8.toList

/-- The meaning of a text whose tag asks for one, or what the tag asked for. -/
def taggedMeaning (s : String) (tag : Tag) : Option (Except String Meaning) :=
  if tag = coreTag "bool" then
    some <| ((bool? s).map Meaning.bool).elim (.error "a boolean") .ok
  else if tag = coreTag "int" then
    some <| ((int? s.toList).map Meaning.int).elim (.error "an integer") .ok
  else if tag = coreTag "float" then
    some <| ((real? s).map Meaning.real).elim (.error "a float") .ok
  else if tag = coreTag "null" then
    some <| if isNull s then .ok .null else .error "null"
  else none

/-- Whether a tag belongs to the document alone. -/
def isLocal (tag : Tag) : Bool :=
  tag.head? = some 0x21

/-- The meaning of a scalar, or what its tag asked for in vain. -/
def meaning (s : Scalar) : Except String Meaning :=
  match s.tag with
  | none => .ok (if s.style = .plain then plainMeaning s.text else .text s.text)
  | some tag =>
    match taggedMeaning s.text tag with
    | some r => r
    | none =>
      .ok (if isLocal tag && s.style = .plain then plainMeaning s.text else .text s.text)

/-- Whether a value of a kind may be read from a scalar: it is plain, or literal with the tag of
that kind. -/
def admits (kind : String) (s : Scalar) : Bool :=
  s.style = .plain || s.style = .literal && s.tag = some (coreTag kind)

end Scalar
end SharedSegment.Yaml
