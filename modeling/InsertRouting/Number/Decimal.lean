namespace InsertRouting
namespace Number

/-!
# Decimal numbers

A decimal is a whole coefficient and a power of ten.  Its positional form shows
every digit and never a power: zeros fill the places between the coefficient and
the decimal point, and the point is left out of a whole number.
-/

/-- The number `coefficient * 10 ^ exponent`. -/
structure Decimal where
  coefficient : Nat
  exponent : Int
  deriving DecidableEq, Repr

namespace Decimal

/-- The digits of the coefficient, most significant first. -/
def digits (d : Decimal) : List Char :=
  Nat.toDigits 10 d.coefficient

/-- The digits with the last `places` of them behind a decimal point, and with
at least one digit in front of it. -/
def withPoint (places : Nat) (digits : List Char) : List Char :=
  if digits.length ≤ places then
    '0' :: '.' :: (List.replicate (places - digits.length) '0' ++ digits)
  else
    digits.take (digits.length - places) ++ '.' :: digits.drop (digits.length - places)

/-- The positional form: digits, and a decimal point where the exponent is
negative. -/
def positional (d : Decimal) : List Char :=
  if 0 ≤ d.exponent then d.digits ++ List.replicate d.exponent.toNat '0'
  else withPoint d.exponent.natAbs d.digits

end Decimal

end Number
end InsertRouting
