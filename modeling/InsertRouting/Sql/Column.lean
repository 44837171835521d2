namespace InsertRouting

/-!
# Columns

A column of a statement is bound to the statement's table.
-/

/-- A column bound to a table. -/
structure Column where
  name : String
  table : String
  deriving DecidableEq, Repr

namespace Column

/-- The column's name behind that of its table. -/
def text (column : Column) : String :=
  column.table ++ "." ++ column.name

end Column

end InsertRouting
