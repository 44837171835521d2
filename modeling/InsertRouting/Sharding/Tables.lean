import InsertRouting.Config.Basic
import InsertRouting.Text.AsciiCase

namespace InsertRouting

/-!
# Look-ups among the sharded tables

The entries that name a table take precedence over the entries without a name:
these count only for a table that no entry names.  Table names are compared
exactly, column names without regard to the case of the letters A to Z.
-/

namespace ShardedTable

/-- The entry names the table or no table at all. -/
def matchesTable (entry : ShardedTable) (table : String) : Bool :=
  match entry.name with
  | some name => name == table
  | none => true

/-- The entry is for this column. -/
def matchesColumn (entry : ShardedTable) (column : String) : Bool :=
  Text.sameExceptAsciiCase entry.column column

/-- The entry names this table. -/
def names (entry : ShardedTable) (table : String) : Bool :=
  entry.name == some table

end ShardedTable

/-- The entries that apply to a table. -/
def shardedEntries (entries : List ShardedTable) (table : String) : List ShardedTable :=
  let named := entries.filter (·.names table)
  if named.isEmpty then entries.filter (·.name.isNone) else named

/-- The entry that makes the column a sharding column of the table. -/
def shardingKey? (entries : List ShardedTable) (table column : String) :
    Option ShardedTable :=
  (shardedEntries entries table).find? (·.matchesColumn column)

/-- The column that the key generator fills; only an entry that names the table
can set it. -/
def generateKeyColumn? (entries : List ShardedTable) (table : String) : Option String :=
  (entries.filter fun entry => entry.matchesTable table && entry.name.isSome).findSome?
    (·.generateKeyColumn)

/-- An entry with a name that applies to a table names it. -/
theorem matchesTable_and_isSome_eq_names (entry : ShardedTable) (table : String) :
    (entry.matchesTable table && entry.name.isSome) = entry.names table := by
  unfold ShardedTable.matchesTable ShardedTable.names
  cases entry.name <;> simp

/-- Every entry that applies to a table matches it. -/
theorem matchesTable_of_mem_shardedEntries {entries : List ShardedTable} {table : String}
    {entry : ShardedTable} (mem : entry ∈ shardedEntries entries table) :
    entry.matchesTable table = true := by
  unfold shardedEntries at mem
  unfold ShardedTable.matchesTable
  dsimp only at mem
  split at mem
  · have := (List.mem_filter.1 mem).2
    cases h : entry.name <;> simp_all
  · have := (List.mem_filter.1 mem).2
    cases h : entry.name <;> simp_all [ShardedTable.names]

end InsertRouting
