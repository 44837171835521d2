import InsertRouting.Config.Basic
import InsertRouting.Toml.Writer

namespace InsertRouting
namespace Config

/-!
# Writing a configuration

Every entry of a configuration is written as a section of its own, in order, and
the columns of an encrypted table follow their table.  What is absent is left
out.
-/

/-- The section of a sharded table. -/
def writeShardedTable (entry : ShardedTable) : List Char :=
  Toml.writeItemHeader "sharded_tables" ++ Toml.writeText? "name" entry.name ++
    Toml.writeText "column" entry.column ++
    Toml.writeText? "generate_key_column" entry.generateKeyColumn

/-- The section of an encrypted column. -/
def writeEncryptedColumn (column : EncryptedColumn) : List Char :=
  Toml.writeItemHeader "encrypted_tables.columns" ++ Toml.writeText "name" column.name ++
    Toml.writeText "cipher_column" column.cipherColumn ++
    Toml.writeText? "assisted_query_column" column.assistedQueryColumn

/-- The sections of an encrypted table and its columns. -/
def writeEncryptedTable (table : EncryptedTable) : List Char :=
  Toml.writeItemHeader "encrypted_tables" ++ Toml.writeText "name" table.name ++
    table.columns.flatMap writeEncryptedColumn

/-- The section of a table of the catalog. -/
def writeTableDefinition (table : TableDefinition) : List Char :=
  Toml.writeItemHeader "tables" ++ Toml.writeText "name" table.name ++
    Toml.writePair "columns" (Toml.writeTexts table.columns)

/-- The document that holds a configuration. -/
def write (config : Config) : String :=
  String.ofList (config.shardedTables.flatMap writeShardedTable ++
    config.encryptedTables.flatMap writeEncryptedTable ++
    config.tables.flatMap writeTableDefinition)

end Config
end InsertRouting
