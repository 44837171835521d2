import InsertRouting.Number.Double.Shortest

namespace InsertRouting

/-!
# Scalars

A scalar is a literal whose value is known while a statement is being analysed.
Scalars of different kinds are never equal, and doubles are compared as numbers.
-/

/-- A literal with a known value. -/
inductive Scalar
  | integer (value : Int64)
  | float (value : Number.Double)
  | boolean (value : Bool)
  deriving Repr

namespace Scalar

/-- The text of a scalar. -/
def text : Scalar → String
  | integer value => toString value.toInt
  | float value => value.text
  | boolean true => "true"
  | boolean false => "false"

/-- Equality of values; a NaN literal equals nothing. -/
def equal : Scalar → Scalar → Bool
  | integer left, integer right => left == right
  | float left, float right => left == right
  | boolean left, boolean right => left == right
  | _, _ => false

instance : BEq Scalar := ⟨equal⟩

theorem beq_eq (left right : Scalar) : (left == right) = left.equal right := rfl

/-- The scalar is a NaN literal. -/
def isNaN : Scalar → Bool
  | float value => value.isNaN
  | _ => false

end Scalar

end InsertRouting
