import InsertRouting.Catalog.Basic
import InsertRouting.Sharding.Rule

namespace InsertRouting

/-!
# How many values a row supplies

The columns that encryption adds for look-ups have no value in a statement.  They
are left out of the count, unless the catalog declares exactly the columns that
the statement lists.
-/

/-- Number of values that a row with `bound` columns supplies. -/
def expectedValues (table : String) (bound : Nat) (rule : ShardingRule)
    (catalog : TableCatalog) : Nat :=
  if catalog.containsTable table && catalog.columnCount table == bound then bound
  else
    match rule.assistedQueryColumns? table with
    | some assisted => bound - assisted
    | none => bound

/-- A row never supplies more values than it has columns. -/
theorem expectedValues_le (table : String) (bound : Nat) (rule : ShardingRule)
    (catalog : TableCatalog) : expectedValues table bound rule catalog ≤ bound := by
  unfold expectedValues
  split
  · exact Nat.le_refl _
  · split <;> omega

end InsertRouting
