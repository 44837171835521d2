namespace InsertRouting

/-!
# What a statement asks about the tables
-/

/-- The answers of a table catalog. -/
structure TableCatalog where
  /-- The table is known. -/
  containsTable : (table : String) → Bool
  /-- The number of declared columns of the table, zero for an unknown table. -/
  columnCount : (table : String) → Nat

end InsertRouting
