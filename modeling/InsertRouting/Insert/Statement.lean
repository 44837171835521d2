import InsertRouting.Insert.Condition
import InsertRouting.Insert.Token

namespace InsertRouting

/-!
# Insert statements

A statement is built up clause by clause.  What a clause adds is a
`Contribution`, and `append` puts it at the end of everything that is there.
Counts of parameters are words of 64 bits, and adding them up wraps around; a
machine that checks its sums stops at the first one that does not fit a word.
Comparison of statements compares literals by value, so a statement with a NaN
literal differs from itself.
-/

/-- The values of one row. -/
structure Row where
  keyword : Keyword
  parametersCount : UInt64
  values : List Expression
  deriving Repr

namespace Row

/-- Equality of rows, with literals compared by value. -/
def equal (left right : Row) : Bool :=
  left.keyword == right.keyword && left.parametersCount == right.parametersCount &&
    left.values == right.values

instance : BEq Row := ⟨equal⟩

theorem beq_eq (left right : Row) : (left == right) = left.equal right := rfl

end Row

/-- An insert statement as far as it has been read. -/
structure InsertStatement where
  tables : List String := []
  columns : List Column := []
  rows : List Row := []
  /-- One conjunction of conditions per row; the statement goes to every shard
  that satisfies one of them. -/
  routeConditions : List (List Condition) := []
  generatedKeys : List GeneratedKey := []
  tokens : List Token := []
  /-- Number of parameters used by the rows. -/
  parametersIndex : UInt64 := 0
  deriving Repr

/-- What one clause adds to a statement. -/
structure Contribution where
  columns : List Column
  row : Row
  conditions : List Condition
  generatedKeys : List GeneratedKey
  tokens : List Token
  deriving Repr

namespace InsertStatement

/-- The statement without a table. -/
def empty : InsertStatement := {}

/-- The statement on one table. -/
def onTable (table : String) : InsertStatement where
  tables := [table]

/-- The statement with one more table. -/
def addTable (statement : InsertStatement) (table : String) : InsertStatement :=
  { statement with tables := statement.tables ++ [table] }

/-- The table of a statement that names exactly one. -/
def singleTable? (statement : InsertStatement) : Option String :=
  match statement.tables with
  | [table] => some table
  | _ => none

/-- The statement with a contribution added at its end. -/
def append (statement : InsertStatement) (added : Contribution) : InsertStatement where
  tables := statement.tables
  columns := statement.columns ++ added.columns
  rows := statement.rows ++ [added.row]
  routeConditions := statement.routeConditions ++ [added.conditions]
  generatedKeys := statement.generatedKeys ++ added.generatedKeys
  tokens := statement.tokens ++ added.tokens
  parametersIndex := statement.parametersIndex + added.row.parametersCount

/-- Equality of statements, with literals compared by value. -/
def equal (left right : InsertStatement) : Bool :=
  left.tables == right.tables && left.columns == right.columns && left.rows == right.rows &&
    left.routeConditions == right.routeConditions &&
    left.generatedKeys == right.generatedKeys && left.tokens == right.tokens &&
    left.parametersIndex == right.parametersIndex

instance : BEq InsertStatement := ⟨equal⟩

theorem beq_eq (left right : InsertStatement) : (left == right) = left.equal right := rfl

theorem singleTable?_eq_some_iff {statement : InsertStatement} {table : String} :
    statement.singleTable? = some table ↔ statement.tables = [table] := by
  unfold singleTable?
  split <;> simp_all

end InsertStatement

end InsertRouting
