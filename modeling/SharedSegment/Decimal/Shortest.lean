import SharedSegment.Decimal.Binary64

/-!
# The shortest decimal of a number

Of all decimals that round to a number, the one with the fewest digits is taken, and of two with as
many digits the nearer one. It is found on the coarsest decimal grid on which a neighbour of the
number lies between the midpoints to the next numbers; a midpoint itself counts when the mantissa is
even. The decimal is written in full, without an exponent.
-/

namespace SharedSegment.Decimal.Binary64

/-- The numerators, over a common denominator, of the lower midpoint, the number and the upper
midpoint. -/
structure Interval where
  lower : Nat
  value : Nat
  upper : Nat
  denominator : Nat
  /-- Whether the midpoints themselves round to the number. -/
  closed : Bool

/-- The decimals that round to a number. Below a power of two the numbers lie twice as close. -/
def interval (b : Binary64) : Interval :=
  let below := if b.mantissa = twoTo 52 && b.exponent > minExponent then 1 else 2
  let up := twoTo (b.exponent - 2).toNat
  { lower := (4 * b.mantissa - below) * up
    value := 4 * b.mantissa * up
    upper := (4 * b.mantissa + 2) * up
    denominator := twoTo (2 - b.exponent).toNat
    closed := b.mantissa % 2 = 0 }

/-- Whether `digits * 10 ^ exponent` lies in an interval. -/
def Interval.contains (i : Interval) (digits : Nat) (exponent : Int) : Bool :=
  let x := digits * tenTo exponent.toNat * i.denominator
  let scale := tenTo (-exponent).toNat
  if i.closed then i.lower * scale ≤ x && x ≤ i.upper * scale
  else i.lower * scale < x && x < i.upper * scale

/-- The point of a decimal grid in an interval that is nearest to its number. -/
def Interval.nearest? (i : Interval) (exponent : Int) : Option Nat :=
  let unit := tenTo exponent.toNat * i.denominator
  let value := i.value * tenTo (-exponent).toNat
  let floor := value / unit
  match i.contains floor exponent, i.contains (floor + 1) exponent with
  | true, true => some (if 2 * (value % unit) ≤ unit then floor else floor + 1)
  | true, false => some floor
  | false, true => some (floor + 1)
  | false, false => none

/-- The first hit on ever finer grids. -/
def search (i : Interval) : Nat → Int → Nat × Int
  | 0, exponent => (i.value / i.denominator, exponent)
  | fuel + 1, exponent =>
    match i.nearest? exponent with
    | some digits => (digits, exponent)
    | none => search i fuel (exponent - 1)

/-- The shortest decimal of a positive number, as digits and exponent. -/
def shortest (b : Binary64) : Nat × Int :=
  let i := b.interval
  search i 1000 (Nat.toDigits 10 (i.upper / i.denominator)).length

def positional (digits : Nat) (exponent : Int) : String :=
  let ds := Nat.toDigits 10 digits
  if 0 ≤ exponent then String.ofList (ds ++ List.replicate exponent.toNat '0')
  else
    let places := (-exponent).toNat
    let padded := List.replicate (places + 1 - ds.length) '0' ++ ds
    let whole := padded.length - places
    String.ofList (padded.take whole ++ '.' :: padded.drop whole)

/-- A number written in full, with a decimal point. -/
def text (b : Binary64) : String :=
  if b.mantissa = 0 then "0.0"
  else
    let (digits, exponent) := b.shortest
    if 0 ≤ exponent then positional digits exponent ++ ".0" else positional digits exponent

end SharedSegment.Decimal.Binary64
