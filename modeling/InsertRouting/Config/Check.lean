import InsertRouting.Config.Basic
import InsertRouting.Config.Error
import InsertRouting.Log
import InsertRouting.Text.Lowercase

namespace InsertRouting
namespace Config

/-!
# Checking a configuration

A sharded table without a column and an encrypted table without a name are
errors.  A sharded table that is configured again and a table without columns
are reported and accepted.  Two sharded tables are the same if they have the
same name, or both none, and the lower-case forms of their columns are equal.
-/

/-- What identifies a sharded table among the others. -/
def shardingIdentity (entry : ShardedTable) : Option String × String :=
  (entry.name, Text.lowercase entry.column)

/-- The warning about an entry that repeats an earlier one. -/
def repeatedEntryWarning (entry : ShardedTable) : String :=
  "sharded table \"" ++ entry.name.getD "*" ++ "\" on column \"" ++ entry.column ++
    "\" is configured more than once"

/-- Check the sharded tables from an index on, with the identities of the ones
before it. -/
def checkShardedTables (index : Nat) (seen : List (Option String × String)) :
    List ShardedTable → Logged ConfigError Unit
  | [] => pure ()
  | entry :: rest =>
      if entry.column.isEmpty then .fail (.noShardingColumn index)
      else do
        if seen.contains (shardingIdentity entry) then
          Logged.emit .warn (repeatedEntryWarning entry)
        checkShardedTables (index + 1) (shardingIdentity entry :: seen) rest

/-- Check the encrypted tables from an index on. -/
def checkEncryptedTables (index : Nat) : List EncryptedTable → Logged ConfigError Unit
  | [] => pure ()
  | table :: rest =>
      if table.name.isEmpty then .fail (.noEncryptedTableName index)
      else checkEncryptedTables (index + 1) rest

/-- Report the tables that are declared without columns. -/
def checkTables : List TableDefinition → Logged ConfigError Unit
  | [] => pure ()
  | table :: rest => do
      if table.columns.isEmpty then
        Logged.emit .warn ("table \"" ++ table.name ++ "\" is declared without columns")
      checkTables rest

/-- Check a configuration; everything that is no error is reported. -/
def check (config : Config) : Logged ConfigError Unit := do
  checkShardedTables 0 [] config.shardedTables
  checkEncryptedTables 0 config.encryptedTables
  checkTables config.tables

end Config
end InsertRouting
