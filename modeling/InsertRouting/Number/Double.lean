namespace InsertRouting
namespace Number

/-!
# Double-precision numbers

A double is given by its 64 bits: the sign, eleven bits of exponent and 52 bits
of fraction.  Comparison follows the numbers and not the bits: the two zeros are
equal, and a NaN differs from everything, itself included.
-/

/-- A double-precision number by its bits. -/
structure Double where
  bits : UInt64
  deriving DecidableEq, Repr

namespace Double

/-- The weight of the sign bit, the 63rd power of two. -/
def signWeight : Nat := 0x8000000000000000

/-- The weight of the last bit of the exponent, the 52nd power of two. -/
def exponentWeight : Nat := 0x10000000000000

/-- The exponent of the infinities and of the NaNs. -/
def lastExponent : Nat := 0x7ff

/-- The sign bit is set. -/
def isNegative (d : Double) : Bool :=
  decide (signWeight ≤ d.bits.toNat)

/-- The eleven bits of the exponent. -/
def exponentField (d : Double) : Nat :=
  d.bits.toNat / exponentWeight % (lastExponent + 1)

/-- The 52 bits of the fraction. -/
def fractionField (d : Double) : Nat :=
  d.bits.toNat % exponentWeight

def isNaN (d : Double) : Bool :=
  d.exponentField == lastExponent && d.fractionField != 0

def isInfinite (d : Double) : Bool :=
  d.exponentField == lastExponent && d.fractionField == 0

def isZero (d : Double) : Bool :=
  d.exponentField == 0 && d.fractionField == 0

/-- The significand of a finite double; the leading one is not stored unless the
exponent field is zero. -/
def significand (d : Double) : Nat :=
  if d.exponentField = 0 then d.fractionField else exponentWeight + d.fractionField

/-- The power of two that the significand of a finite double is multiplied by. -/
def scale (d : Double) : Int :=
  if d.exponentField = 0 then -1074 else (d.exponentField : Int) - 1075

/-- The double with the given sign whose bits below the sign are `magnitude`. -/
def ofMagnitude (negative : Bool) (magnitude : Nat) : Double :=
  ⟨UInt64.ofNat (if negative then signWeight + magnitude else magnitude)⟩

/-- Bits of an infinity below the sign. -/
def infinityMagnitude : Nat := lastExponent * exponentWeight

/-- Bits of the default NaN below the sign. -/
def nanMagnitude : Nat := infinityMagnitude + exponentWeight / 2

/-- Equality of the numbers: NaN equals nothing and the zeros are equal. -/
def equal (left right : Double) : Bool :=
  !left.isNaN && !right.isNaN &&
    (left.bits == right.bits || (left.isZero && right.isZero))

instance : BEq Double := ⟨equal⟩

theorem beq_eq (left right : Double) : (left == right) = left.equal right := rfl

end Double

end Number
end InsertRouting
