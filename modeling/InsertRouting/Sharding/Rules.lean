import InsertRouting.Sharding.Encryptor
import InsertRouting.Sharding.Rule
import InsertRouting.Sharding.Tables

namespace InsertRouting

/-!
# Sharding rules of a configuration
-/

/-- The sharded tables and the encryptor of a configuration. -/
structure ShardingRules where
  tables : List ShardedTable
  encryptor : Encryptor

namespace ShardingRules

/-- The rules of a configuration. -/
def ofConfig (config : Config) : ShardingRules :=
  ⟨config.shardedTables, .ofTables config.encryptedTables⟩

/-- The answers of the rules. -/
def rule (rules : ShardingRules) : ShardingRule where
  isShardingColumn column table := (shardingKey? rules.tables table column).isSome
  generateKeyColumn? table := InsertRouting.generateKeyColumn? rules.tables table
  assistedQueryColumns? table := rules.encryptor.assistedQueryColumns? table

end ShardingRules

end InsertRouting
