import InsertRouting.Sql.Scalar
import InsertRouting.Text.Quoted

namespace InsertRouting

/-!
# Bound expressions

An expression bound to a statement no longer refers to positions in the text: it
is a parameter, a literal, or the text that it was written with.
-/

/-- A value of a statement. -/
inductive Expression
  /-- The parameter with this index, counted from zero. -/
  | placeholder (index : Nat)
  /-- A literal with a known value. -/
  | literal (value : Scalar)
  /-- A string literal with its quotes. -/
  | text (source : String)
  /-- An expression that cannot be evaluated here, as it was written. -/
  | ignored (source : String)
  deriving Repr

namespace Expression

/-- The expression as shown to a reader; parameters are not numbered. -/
def shown : Expression → String
  | placeholder _ => "?"
  | literal value => value.text
  | text source => source
  | ignored source => source

/-- The text that a string literal stands for. -/
def textValue? : Expression → Option String
  | text source => some (String.ofList (Text.unquoted source.toList))
  | _ => none

/-- Equality of expressions, with literals compared by value. -/
def equal : Expression → Expression → Bool
  | placeholder left, placeholder right => left == right
  | literal left, literal right => left == right
  | text left, text right => left == right
  | ignored left, ignored right => left == right
  | _, _ => false

instance : BEq Expression := ⟨equal⟩

theorem beq_eq (left right : Expression) : (left == right) = left.equal right := rfl

end Expression

end InsertRouting
