import InsertRouting.Clause.Expression

namespace InsertRouting

/-!
# The clause `SET column = value, ...`

The grammar reports the columns and the values of the clause as two lists; a
column need not have a value.  It also counts the parameters among the values,
in a word of 64 bits that wraps around, and may correct the count at any time.
-/

/-- A column of a clause, with the qualifier in front of it if there is one.  The
column starts where its qualifier starts. -/
structure ColumnSegment where
  name : String
  owner : Option String
  start : Nat
  deriving DecidableEq, Repr

/-- The columns and values of a clause, in the order they were reported. -/
structure SetClause where
  columns : List ColumnSegment := []
  values : List ExpressionSegment := []
  parametersCount : UInt64 := 0
  /-- Where the keyword stands. -/
  start : Nat := 0
  deriving Repr

namespace SetClause

/-- The clause without columns and values. -/
def empty (start : Nat) : SetClause where
  start := start

/-- Report a column. -/
def addColumn (clause : SetClause) (column : ColumnSegment) : SetClause :=
  { clause with columns := clause.columns ++ [column] }

/-- Report a value; a parameter is counted. -/
def addValue (clause : SetClause) (value : ExpressionSegment) : SetClause :=
  { clause with
    values := clause.values ++ [value]
    parametersCount := clause.parametersCount + (if value.isPlaceholder then 1 else 0) }

/-- Report a column and its value. -/
def assign (clause : SetClause) (column : ColumnSegment) (value : ExpressionSegment) :
    SetClause :=
  (clause.addColumn column).addValue value

/-- Correct the number of parameters. -/
def withParametersCount (clause : SetClause) (count : UInt64) : SetClause :=
  { clause with parametersCount := count }

/-- One report of the grammar. -/
inductive Step
  | column (column : ColumnSegment)
  | value (value : ExpressionSegment)
  | assignment (column : ColumnSegment) (value : ExpressionSegment)
  | parametersCount (count : UInt64)
  deriving Repr

/-- The clause after one more report. -/
def apply (clause : SetClause) : Step → SetClause
  | .column column => clause.addColumn column
  | .value value => clause.addValue value
  | .assignment column value => clause.assign column value
  | .parametersCount count => clause.withParametersCount count

/-- The clause that starts at an offset and is reported by the given steps. -/
def build (start : Nat) (steps : List Step) : SetClause :=
  steps.foldl apply (empty start)

end SetClause

end InsertRouting
