import InsertRouting.Clause.Set
import InsertRouting.Insert.GeneratedKey
import InsertRouting.Insert.Statement
import InsertRouting.Insert.ValueCount
import InsertRouting.Log
import InsertRouting.Text.AsciiCase
import InsertRouting.Text.Escaped

namespace InsertRouting

/-!
# Adding a clause to a statement

The columns of a clause are bound first, then the number of values is checked,
then the columns and values are paired by position and each pair is bound.  The
statement changes only when all of this has succeeded, so what a clause adds is a
function of the table alone (`contribution`), and `fill` appends it.
-/

/-- The columns of a clause, bound to a table. -/
def SetClause.boundColumns (clause : SetClause) (table : String) : List Column :=
  clause.columns.map fun column => ⟨column.name, table⟩

/-- The token of a column that is qualified with the table itself.  A qualifier
that names another table is accepted and has no token. -/
def qualifierToken? (table : String) (sql : String) (column : ColumnSegment) :
    Except FillError (Option Token) :=
  if column.owner = some table then
    match Text.splitAtByte? column.start sql.toList with
    | some (_, first :: rest) =>
        .ok (some (.table column.start table (QuoteStyle.ofSource (first :: rest))))
    | _ => .error (.expressionSpan column.start column.start)
  else .ok none

/-- The tokens of all qualified columns, in order. -/
def qualifierTokens (table : String) (sql : String) :
    List ColumnSegment → Except FillError (List Token)
  | [] => .ok []
  | column :: rest =>
      match qualifierToken? table sql column with
      | .error error => .error error
      | .ok token =>
          match qualifierTokens table sql rest with
          | .error error => .error error
          | .ok tokens => .ok (token.toList ++ tokens)

/-- What one pair of a column and a value adds to a statement. -/
structure BoundValue where
  expression : Expression
  condition : Option Condition
  generatedKey : Option GeneratedKey
  deriving Repr

/-- The condition of a pair, if the column is a sharding column. -/
def routeCondition? (rule : ShardingRule) (column : Column) (segment : ExpressionSegment)
    (expression : Expression) : Logged FillError (Option Condition) :=
  if rule.isShardingColumn column.name column.table then
    if segment.isRoutable then .ok (some ⟨column, expression⟩)
    else do
      Logged.emit .debug ("complex expression on sharding column \"" ++ column.text ++
        "\": " ++ expression.shown)
      .fail (.unsupportedShardingExpression column.name)
  else .ok none

/-- The generated key of a pair, if the column is the one that the key generator
fills. -/
def generatedKey? (keyColumn : Option String) (sql : String) (column : Column)
    (segment : ExpressionSegment) : Except FillError (Option GeneratedKey) :=
  if keyColumn.any (Text.sameExceptAsciiCase · column.name) then
    (suppliedKey column segment sql).map some
  else .ok none

/-- Bind a pair of a column and a value. -/
def bindValue (rule : ShardingRule) (keyColumn : Option String) (sql : String)
    (column : Column) (segment : ExpressionSegment) : Logged FillError BoundValue := do
  let expression ← Logged.ofExcept (segment.toExpression sql)
  let condition ← routeCondition? rule column segment expression
  let generatedKey ← Logged.ofExcept (generatedKey? keyColumn sql column segment)
  pure ⟨expression, condition, generatedKey⟩

/-- Bind the pairs of a row, from left to right. -/
def bindRow (rule : ShardingRule) (keyColumn : Option String) (sql : String) :
    List (Column × ExpressionSegment) → Logged FillError (List BoundValue)
  | [] => pure []
  | (column, segment) :: rest => do
      let value ← bindValue rule keyColumn sql column segment
      let values ← bindRow rule keyColumn sql rest
      pure (value :: values)

/-- A column in a diagnostic. -/
def Column.diagnostic (column : Column) : String :=
  "Column \x7b name: " ++ Text.escaped column.name ++ ", table: " ++
    Text.escaped column.table ++ " \x7d"

/-- A list of columns in a diagnostic. -/
def columnsDiagnostic (columns : List Column) : String :=
  "[" ++ String.intercalate ", " (columns.map Column.diagnostic) ++ "]"

/-- Refuse a row whose number of values is not the expected one. -/
def checkValueCount (table : String) (columns expected values : Nat) :
    Logged FillError Unit :=
  if values = expected ∧ values ≤ columns then .ok ()
  else do
    Logged.emit .debug ("table \"" ++ table ++ "\" expects " ++ toString expected ++
      " values, SET has " ++ toString values)
    .fail (.valueCountMismatch (min expected columns) values)

/-- What a clause adds to a statement on a table. -/
def contribution (clause : SetClause) (table : String) (sql : String) (rule : ShardingRule)
    (catalog : TableCatalog) : Logged FillError Contribution := do
  let tokens ← Logged.ofExcept (qualifierTokens table sql clause.columns)
  let columns := clause.boundColumns table
  Logged.emit .trace ("bound columns: " ++ columnsDiagnostic columns)
  checkValueCount table columns.length
    (expectedValues table columns.length rule catalog) clause.values.length
  let values ← bindRow rule (rule.generateKeyColumn? table) sql (columns.zip clause.values)
  pure {
    columns := columns
    row := ⟨.set, clause.parametersCount, values.map (·.expression)⟩
    conditions := values.filterMap (·.condition)
    generatedKeys := values.filterMap (·.generatedKey)
    tokens := tokens ++ [.insertValues clause.start .set] }

/-- The statement after a clause, the verdict on the clause, and the log. -/
structure Filled where
  statement : InsertStatement
  verdict : Except FillError Unit
  events : List Event

/-- Add a clause to a statement.  A refused clause leaves the statement as it
was. -/
def fill (clause : SetClause) (statement : InsertStatement) (sql : String)
    (rule : ShardingRule) (catalog : TableCatalog) : Filled :=
  match statement.singleTable? with
  | none => ⟨statement, .error .noSingleTable, []⟩
  | some table =>
      let outcome := contribution clause table sql rule catalog
      match outcome.result with
      | .ok added => ⟨statement.append added, .ok (), outcome.events⟩
      | .error error => ⟨statement, .error error, outcome.events⟩

/-- A refused clause leaves the statement as it was. -/
theorem statement_fill_of_error {clause : SetClause} {statement : InsertStatement}
    {sql : String} {rule : ShardingRule} {catalog : TableCatalog} {error : FillError}
    (refused : (fill clause statement sql rule catalog).verdict = .error error) :
    (fill clause statement sql rule catalog).statement = statement := by
  unfold fill at *
  split
  · rfl
  · dsimp only
    split
    · simp_all
    · rfl

end InsertRouting
