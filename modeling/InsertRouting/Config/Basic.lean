namespace InsertRouting

/-!
# Configuration

A configuration lists the sharded tables, the tables with encrypted columns and,
where the catalog is not read from a database, the tables with their columns.
-/

/-- A rule for one table, or for every table that has no rule of its own. -/
structure ShardedTable where
  /-- The table; without a name the entry is for all tables with the column. -/
  name : Option String := none
  /-- The column that the table is sharded on. -/
  column : String := ""
  /-- The column that the key generator fills when a statement does not. -/
  generateKeyColumn : Option String := none
  deriving DecidableEq, Repr

/-- A column that is stored encrypted. -/
structure EncryptedColumn where
  name : String
  /-- The column that holds the encrypted values. -/
  cipherColumn : String
  /-- The column that is used to look values up, if there is one. -/
  assistedQueryColumn : Option String := none
  deriving DecidableEq, Repr

/-- A table with encrypted columns. -/
structure EncryptedTable where
  name : String
  columns : List EncryptedColumn := []
  deriving DecidableEq, Repr

/-- A table of the catalog with its columns in the order of their declaration. -/
structure TableDefinition where
  name : String
  columns : List String := []
  deriving DecidableEq, Repr

/-- A whole configuration; the default is the empty one. -/
structure Config where
  shardedTables : List ShardedTable := []
  encryptedTables : List EncryptedTable := []
  tables : List TableDefinition := []
  deriving DecidableEq, Repr, Inhabited

/-- Number of columns that encryption adds to the table for look-ups. -/
def EncryptedTable.assistedQueryColumns (table : EncryptedTable) : Nat :=
  table.columns.countP (·.assistedQueryColumn.isSome)

end InsertRouting
