import InsertRouting.Sql.Column
import InsertRouting.Sql.Expression

namespace InsertRouting

/-!
# Conditions

A row is routed by the values of its sharding columns, and may supply the value
of the column that is otherwise filled by the key generator.
-/

/-- A sharding column has this value. -/
structure Condition where
  column : Column
  expression : Expression
  deriving Repr

namespace Condition

/-- Equality of conditions, with literals compared by value. -/
def equal (left right : Condition) : Bool :=
  left.column == right.column && left.expression == right.expression

instance : BEq Condition := ⟨equal⟩

theorem beq_eq (left right : Condition) : (left == right) = left.equal right := rfl

end Condition

/-- Where the value of a generated key comes from. -/
inductive KeySource
  /-- A parameter. -/
  | placeholder (index : Nat)
  /-- A literal with a known value. -/
  | value (scalar : Scalar)
  /-- Anything else, as it was written. -/
  | raw (source : String)
  deriving Repr

namespace KeySource

/-- Equality of sources, with literals compared by value. -/
def equal : KeySource → KeySource → Bool
  | placeholder left, placeholder right => left == right
  | value left, value right => left == right
  | raw left, raw right => left == right
  | _, _ => false

instance : BEq KeySource := ⟨equal⟩

theorem beq_eq (left right : KeySource) : (left == right) = left.equal right := rfl

end KeySource

/-- A statement supplies the value of the generated column itself. -/
structure GeneratedKey where
  column : Column
  source : KeySource
  deriving Repr

namespace GeneratedKey

/-- The index of the parameter that supplies the key. -/
def placeholderIndex? (key : GeneratedKey) : Option Nat :=
  match key.source with
  | .placeholder index => some index
  | _ => none

/-- The literal that supplies the key. -/
def value? (key : GeneratedKey) : Option Scalar :=
  match key.source with
  | .value scalar => some scalar
  | _ => none

/-- The source text that supplies the key. -/
def raw? (key : GeneratedKey) : Option String :=
  match key.source with
  | .raw source => some source
  | _ => none

/-- Equality of keys, with literals compared by value. -/
def equal (left right : GeneratedKey) : Bool :=
  left.column == right.column && left.source == right.source

instance : BEq GeneratedKey := ⟨equal⟩

theorem beq_eq (left right : GeneratedKey) : (left == right) = left.equal right := rfl

end GeneratedKey

end InsertRouting
