namespace InsertRouting

/-!
# Failures of a fill

Each way in which a clause can be refused is one constructor, and `message` holds
the wording of all of them.
-/

/-- Why a clause cannot be added to a statement. -/
inductive FillError
  /-- The statement does not name exactly one table. -/
  | noSingleTable
  /-- The bytes `start` through `stop` are no piece of the statement's text. -/
  | expressionSpan (start stop : Nat)
  /-- The number of values is not the number that the columns call for. -/
  | valueCountMismatch (columns values : Nat)
  /-- The value of a sharding column cannot be evaluated. -/
  | unsupportedShardingExpression (column : String)
  deriving DecidableEq, Repr

namespace FillError

/-- The text of a failure. -/
def message : FillError → String
  | noSingleTable => "INSERT must reference exactly one table"
  | expressionSpan start stop =>
      "expression at " ++ toString start ++ "..=" ++ toString stop ++
        " is outside of the statement"
  | valueCountMismatch columns values =>
      "INSERT INTO column size mismatch value size: expected " ++ toString columns ++
        " values, got " ++ toString values
  | unsupportedShardingExpression column =>
      "INSERT INTO can not support complex expression value on sharding column \"" ++
        column ++ "\""

end FillError

end InsertRouting
