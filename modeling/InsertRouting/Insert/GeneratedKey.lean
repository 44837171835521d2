import InsertRouting.Clause.Expression
import InsertRouting.Insert.Condition

namespace InsertRouting

/-!
# Generated keys supplied by a statement
-/

/-- The generated key that a value supplies for a column: a parameter or a
literal as such, and anything else as it was written. -/
def suppliedKey (column : Column) (segment : ExpressionSegment) (sql : String) :
    Except FillError GeneratedKey :=
  match segment.kind with
  | .placeholder index => .ok ⟨column, .placeholder index⟩
  | .literal value => .ok ⟨column, .value value⟩
  | .text => (segment.source sql).map fun source => ⟨column, .raw source⟩
  | .complex => (segment.source sql).map fun source => ⟨column, .raw source⟩

end InsertRouting
