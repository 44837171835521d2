import InsertRouting.Number.Decimal
import InsertRouting.Number.Double

namespace InsertRouting
namespace Number

/-!
# The double nearest to a decimal

A decimal is read as the double nearest to it; of two equally near doubles the
one with the even significand is taken.  A decimal at or beyond half a step above
the largest finite double becomes an infinity.
-/

/-- The quotient rounded to the nearest whole number, halves to the even one. -/
def roundedQuotient (numerator denominator : Nat) : Nat :=
  let quotient := numerator / denominator
  let twice := 2 * (numerator % denominator)
  if twice < denominator then quotient
  else if denominator < twice then quotient + 1
  else quotient + quotient % 2

/-- The fraction divided by a power of two, rounded to a whole number. -/
def roundedAtScale (numerator denominator : Nat) (scale : Int) : Nat :=
  roundedQuotient (numerator * Nat.pow 2 (-scale).toNat)
    (denominator * Nat.pow 2 scale.toNat)

/-- The power of two at which a positive fraction has 53 significant bits, or the
least power if that is greater. -/
def scaleOfFraction (numerator denominator : Nat) : Int :=
  let estimate : Int := (numerator.log2 : Int) - (denominator.log2 : Int) - 52
  let exact :=
    if denominator * Nat.pow 2 (estimate + 52).toNat ≤
        numerator * Nat.pow 2 (-(estimate + 52)).toNat
    then estimate else estimate - 1
  max exact (-1074)

/-- Bits below the sign of the double nearest to a positive fraction.  Rounding
up to the next power of two carries into the exponent by itself. -/
def nearestMagnitude (numerator denominator : Nat) : Nat :=
  let scale := scaleOfFraction numerator denominator
  let rounded := roundedAtScale numerator denominator scale
  min ((scale + 1074).toNat * Double.exponentWeight + rounded) Double.infinityMagnitude

namespace Decimal

/-- Bits below the sign of the double nearest to a decimal.  An exponent that is
out of reach of every finite double is decided without computing the power. -/
def magnitude (d : Decimal) : Nat :=
  if d.coefficient = 0 then 0
  else if 310 ≤ d.exponent then Double.infinityMagnitude
  else if d.exponent + d.digits.length < -330 then 0
  else nearestMagnitude (d.coefficient * Nat.pow 10 d.exponent.toNat)
    (Nat.pow 10 (-d.exponent).toNat)

/-- The double nearest to a decimal of the given sign. -/
def toDouble (negative : Bool) (d : Decimal) : Double :=
  Double.ofMagnitude negative d.magnitude

end Decimal

end Number
end InsertRouting
