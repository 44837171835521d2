import InsertRouting.Sql.QuoteStyle

namespace InsertRouting

/-!
# Tokens

Tokens mark the places of the text that change when a statement is sent to a
shard: the table names to replace, and the start of the rows.
-/

/-- The keyword in front of the rows of a statement. -/
inductive Keyword
  | set
  deriving DecidableEq, Repr

/-- A marked place of the text. -/
inductive Token
  /-- The name of the table, quoted in this style. -/
  | table (start : Nat) (name : String) (quote : QuoteStyle)
  /-- The keyword in front of the rows. -/
  | insertValues (start : Nat) (keyword : Keyword)
  deriving DecidableEq, Repr

end InsertRouting
