namespace InsertRouting

/-!
# What a statement asks about sharding
-/

/-- The answers of a sharding configuration. -/
structure ShardingRule where
  /-- The column decides on which shard a row of the table is stored. -/
  isShardingColumn : (column table : String) → Bool
  /-- The column of the table that the key generator fills. -/
  generateKeyColumn? : (table : String) → Option String
  /-- The number of columns that encryption adds to the table for look-ups. -/
  assistedQueryColumns? : (table : String) → Option Nat

end InsertRouting
