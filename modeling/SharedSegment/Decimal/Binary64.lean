import SharedSegment.Power

/-!
# Binary numbers of double precision

A finite number is a mantissa below `2 ^ 53` times a power of two. A decimal is rounded to the
nearest such number, a tie to the even mantissa; one that rounds beyond the largest has none.
-/

namespace SharedSegment.Decimal

/-- A non-negative finite number of double precision, `mantissa * 2 ^ exponent`. -/
structure Binary64 where
  mantissa : Nat
  exponent : Int
deriving DecidableEq

namespace Binary64

def minExponent : Int := -1074

def maxExponent : Int := 971

/-- The quotient rounded to the nearest number, a tie to the even one. -/
def roundHalfEven (num den : Nat) : Nat :=
  let q := num / den
  let r := num % den
  if den < 2 * r || 2 * r == den && q % 2 == 1 then q + 1 else q

/-- A quotient divided by a power of two, as numerator and denominator. -/
def scaled (num den : Nat) (exponent : Int) : Nat × Nat :=
  if exponent < 0 then (num * twoTo (-exponent).toNat, den) else (num, den * twoTo exponent.toNat)

/-- The nearest number to a quotient, if it is not too large. -/
def ofQuotient (num den : Nat) : Option Binary64 :=
  if num = 0 then some ⟨0, minExponent⟩
  else
    -- The guess leaves 53 or 54 bits before the point, so at most one step is missing.
    let guess := max ((num.log2 : Int) - den.log2 - 53) minExponent
    let (n, d) := scaled num den guess
    let exponent := if n / d < twoTo 53 then guess else guess + 1
    let (n, d) := scaled num den exponent
    let mantissa := roundHalfEven n d
    -- Rounding up may carry into the next power of two.
    let (mantissa, exponent) :=
      if mantissa = twoTo 53 then (twoTo 52, exponent + 1) else (mantissa, exponent)
    if exponent > maxExponent then none else some ⟨mantissa, exponent⟩

/-- The number of decimal places beyond which every number is zero or too large. -/
def maxPlaces : Int := 1200

/-- The nearest number to `digits * 10 ^ exponent`, if it is not too large. -/
def ofDecimal (digits : Nat) (exponent : Int) : Option Binary64 :=
  let size := (Nat.toDigits 10 digits).length + exponent
  if digits = 0 || size < -maxPlaces then some ⟨0, minExponent⟩
  else if size > maxPlaces then none
  else if exponent < 0 then ofQuotient digits (tenTo (-exponent).toNat)
  else ofQuotient (digits * tenTo exponent.toNat) 1

end Binary64
end SharedSegment.Decimal
