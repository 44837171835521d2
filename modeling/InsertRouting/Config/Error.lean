namespace InsertRouting

/-!
# Configuration errors

A text is refused because it is no document at all, because the document has the
wrong shape, or because the configuration it holds is incomplete.  The first two
are reported with the line at fault.
-/

/-- How a document differs from the shape of a configuration. -/
inductive ShapeError
  /-- A value of another kind stands where something else is called for. -/
  | invalidType (found expected : String)
  /-- A table has a key that is none of the fields. -/
  | unknownField (name : String) (fields : List String)
  /-- A table lacks a field. -/
  | missingField (name : String)
  /-- A list of fields ends too early. -/
  | invalidLength (length : Nat) (expected : String)
  deriving DecidableEq, Repr

namespace ShapeError

/-- A name between backquotes. -/
def backquoted (name : String) : String :=
  "\x60" ++ name ++ "\x60"

/-- The fields to choose from. -/
def fieldChoice : List String → String
  | [] => "there are no fields"
  | [field] => "expected " ++ backquoted field
  | [first, second] => "expected " ++ backquoted first ++ " or " ++ backquoted second
  | fields => "expected one of " ++ String.intercalate ", " (fields.map backquoted)

/-- The text of a difference. -/
def message : ShapeError → String
  | invalidType found expected => "invalid type: " ++ found ++ ", expected " ++ expected
  | unknownField name fields =>
      "unknown field " ++ backquoted name ++ ", " ++ fieldChoice fields
  | missingField name => "missing field " ++ backquoted name
  | invalidLength length expected =>
      "invalid length " ++ toString length ++ ", expected " ++ expected

end ShapeError

/-- Why a configuration is refused. -/
inductive ConfigError
  /-- The text is no document; the message is that of its reader. -/
  | malformed (line : Nat) (message : String)
  /-- The document has the wrong shape. -/
  | shape (line : Nat) (error : ShapeError)
  /-- The sharded table at this index has no column. -/
  | noShardingColumn (index : Nat)
  /-- The encrypted table at this index has no name. -/
  | noEncryptedTableName (index : Nat)
  deriving DecidableEq, Repr

namespace ConfigError

/-- The text of an error. -/
def message : ConfigError → String
  | malformed line message => "config error on line " ++ toString line ++ ": " ++ message
  | shape line error => "config error on line " ++ toString line ++ ": " ++ error.message
  | noShardingColumn index => "sharded table entry #" ++ toString index ++ " has no column"
  | noEncryptedTableName index =>
      "encrypted table entry #" ++ toString index ++ " has no name"

end ConfigError

end InsertRouting
