import InsertRouting.Catalog.Basic
import InsertRouting.Config.Basic
import Std.Data.HashMap

namespace InsertRouting

/-!
# A catalog in memory

Of several definitions of one table the last one counts.
-/

/-- Table definitions by name. -/
structure Schema where
  tables : Std.HashMap String TableDefinition

namespace Schema

/-- The catalog of a list of definitions. -/
def ofTables (tables : List TableDefinition) : Schema :=
  ⟨tables.foldl (fun known table => known.insert table.name table) ∅⟩

/-- The catalog declared in a configuration. -/
def ofConfig (config : Config) : Schema :=
  ofTables config.tables

/-- The definition of a table. -/
def table? (schema : Schema) (name : String) : Option TableDefinition :=
  schema.tables[name]?

/-- The answers of the catalog. -/
def catalog (schema : Schema) : TableCatalog where
  containsTable name := schema.tables.contains name
  columnCount name :=
    match schema.table? name with
    | some table => table.columns.length
    | none => 0

/-- The last definition of a table is the one that is found. -/
theorem getElem?_foldl_insert (tables : List TableDefinition)
    (known : Std.HashMap String TableDefinition) (name : String) :
    (tables.foldl (fun known table => known.insert table.name table) known)[name]? =
      (tables.reverse.find? (·.name == name)).or known[name]? := by
  induction tables generalizing known with
  | nil => simp
  | cons table rest ih =>
      rw [List.foldl_cons, ih, Std.HashMap.getElem?_insert]
      by_cases same : table.name = name
      · simp [List.find?_append, same]
      · simp [List.find?_append, same]

theorem table?_ofTables (tables : List TableDefinition) (name : String) :
    (ofTables tables).table? name = tables.reverse.find? (·.name == name) := by
  rw [table?, ofTables, getElem?_foldl_insert]
  simp

/-- Definitions of other tables do not count. -/
theorem table?_ofTables_filter (tables : List TableDefinition) (name : String) :
    (ofTables (tables.filter (·.name == name))).table? name =
      (ofTables tables).table? name := by
  rw [table?_ofTables, table?_ofTables, ← List.filter_reverse, List.find?_filter]
  congr 1
  funext table
  cases table.name == name <;> rfl

theorem catalog_containsTable (schema : Schema) (name : String) :
    schema.catalog.containsTable name = (schema.table? name).isSome :=
  Std.HashMap.contains_eq_isSome_getElem?

end Schema

end InsertRouting
