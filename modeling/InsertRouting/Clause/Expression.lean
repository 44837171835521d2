import InsertRouting.Insert.Error
import InsertRouting.Sql.Expression
import InsertRouting.Text.Offset

namespace InsertRouting

/-!
# Expressions of a clause

The grammar reports the kind of each value and the bytes it occupies, the last
byte included.  The text of string literals and of expressions that cannot be
evaluated is read from the statement when the value is bound.
-/

/-- What the grammar recognised as a value. -/
inductive ExpressionKind
  | placeholder (index : Nat)
  | literal (value : Scalar)
  | text
  | complex
  deriving Repr

/-- A value of a clause and the bytes it occupies. -/
structure ExpressionSegment where
  kind : ExpressionKind
  start : Nat
  stop : Nat
  deriving Repr

namespace ExpressionSegment

/-- The value is known, or is a parameter, when the statement is routed. -/
def isRoutable (segment : ExpressionSegment) : Bool :=
  match segment.kind with
  | .complex => false
  | _ => true

/-- The value is a parameter. -/
def isPlaceholder (segment : ExpressionSegment) : Bool :=
  match segment.kind with
  | .placeholder _ => true
  | _ => false

/-- The text that the value is written with. -/
def source (segment : ExpressionSegment) (sql : String) : Except FillError String :=
  match Text.slice? segment.start segment.stop sql.toList with
  | some text => .ok (String.ofList text)
  | none => .error (.expressionSpan segment.start segment.stop)

/-- The value as an expression of the statement. -/
def toExpression (segment : ExpressionSegment) (sql : String) :
    Except FillError Expression :=
  match segment.kind with
  | .placeholder index => .ok (.placeholder index)
  | .literal value => .ok (.literal value)
  | .text => (segment.source sql).map .text
  | .complex => (segment.source sql).map .ignored

/-- The text of a value fails only with the value's own span. -/
theorem source_eq_error_iff {segment : ExpressionSegment} {sql : String} {error : FillError} :
    segment.source sql = .error error ↔
      Text.slice? segment.start segment.stop sql.toList = none ∧
        error = .expressionSpan segment.start segment.stop := by
  unfold source
  split
  · rename_i h
    simp [h]
  · rename_i h
    simp [h, eq_comm]

end ExpressionSegment

end InsertRouting
