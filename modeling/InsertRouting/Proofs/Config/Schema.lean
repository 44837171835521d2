import InsertRouting.Config.Reader

namespace InsertRouting
namespace Config

/-!
# The schema of a configuration

A configuration is described by shapes: texts, lists and records with named fields.  This
module says, without reading anything, which values of a document conform to a shape
(`Conforms`), which configuration a document holds (`configAt`), and what is wrong with a
document that does not conform, for the first offence in the order of the document
(`Offence`).
-/

/-- A field of a record: its name, whether it has to be given, and what its value is. -/
structure FieldShape (σ : Type) where
  name : String
  required : Bool
  shape : σ

/-- What a value of a document has to be. -/
inductive Shape
  | text
  | list (item : Shape)
  | record (name : String) (fields : List (FieldShape Shape))

/-- The field that is declared under a name. -/
def fieldNamed? (fields : List (FieldShape Shape)) (name : String) :
    Option (FieldShape Shape) :=
  fields.find? (·.name == name)

/-- The value conforms to the shape. -/
inductive Conforms : Shape → Toml.Node → Prop
  | text (line : Nat) (text : String) : Conforms .text (.scalar line (.string text))
  | list {item : Shape} {line : Nat} {form : Toml.ListForm} {items : List Toml.Node}
      (hitems : ∀ node ∈ items, Conforms item node) :
      Conforms (.list item) (.list line form items)
  /-- A table conforms to a record when its keys are fields, with values that conform, and
  no required field is missing. -/
  | table {name : String} {fields : List (FieldShape Shape)} {line : Option Nat}
      {form : Toml.TableForm} {entries : Toml.Entries}
      (hkeys : ∀ entry ∈ entries, ∃ field, fieldNamed? fields entry.1.name = some field)
      (hvalues : ∀ entry ∈ entries, ∀ field, fieldNamed? fields entry.1.name = some field →
        Conforms field.shape entry.2)
      (hrequired : ∀ field ∈ fields, field.required = true →
        ∃ entry ∈ entries, entry.1.name = field.name) :
      Conforms (.record name fields) (.table line form entries)
  /-- A list conforms to a record when its items conform to the fields, place by place, and
  no field behind the last item is required.  Items behind the last field are ignored. -/
  | fields {name : String} {fields : List (FieldShape Shape)} {line : Nat}
      {form : Toml.ListForm} {items : List Toml.Node}
      (hvalues : ∀ pair ∈ fields.zip items, Conforms pair.1.shape pair.2)
      (hrequired : ∀ field ∈ fields.drop items.length, field.required = false) :
      Conforms (.record name fields) (.list line form items)

/-- The key is a field, and its value conforms. -/
def EntryConforms (fields : List (FieldShape Shape)) (entry : Toml.Key × Toml.Node) : Prop :=
  ∃ field, fieldNamed? fields entry.1.name = some field ∧ Conforms field.shape entry.2

/-- The value does not conform to the shape, and this is its first offence in the order of
the document.  A value without a line of its own is blamed at the line of its key. -/
inductive Offence : Shape → Nat → Toml.Node → Misfit → Prop
  | text {keyLine : Nat} {node : Toml.Node}
      (hkind : ∀ line text, node ≠ .scalar line (.string text)) :
      Offence .text keyLine node
        ⟨node.line?.getD keyLine, .invalidType (description node) "a string"⟩
  | list {item : Shape} {keyLine : Nat} {node : Toml.Node}
      (hkind : ∀ line form items, node ≠ .list line form items) :
      Offence (.list item) keyLine node
        ⟨node.line?.getD keyLine, .invalidType (description node) "a sequence"⟩
  /-- The first item of a list that does not conform. -/
  | item {item : Shape} {keyLine line : Nat} {form : Toml.ListForm}
      {before after : List Toml.Node} {node : Toml.Node} {misfit : Misfit}
      (hbefore : ∀ earlier ∈ before, Conforms item earlier)
      (hnode : Offence item line node misfit) :
      Offence (.list item) keyLine (.list line form (before ++ node :: after)) misfit
  /-- A key that is no field, behind entries that conform. -/
  | unknownField {name : String} {fields : List (FieldShape Shape)} {keyLine : Nat}
      {line : Option Nat} {form : Toml.TableForm} {before after : Toml.Entries}
      {key : Toml.Key} {node : Toml.Node}
      (hbefore : ∀ earlier ∈ before, EntryConforms fields earlier)
      (hkey : fieldNamed? fields key.name = none) :
      Offence (.record name fields) keyLine (.table line form (before ++ (key, node) :: after))
        ⟨key.line, .unknownField key.name (fields.map (·.name))⟩
  /-- The value of a field, behind entries that conform. -/
  | entry {name : String} {fields : List (FieldShape Shape)} {keyLine : Nat}
      {line : Option Nat} {form : Toml.TableForm} {before after : Toml.Entries}
      {key : Toml.Key} {node : Toml.Node} {field : FieldShape Shape} {misfit : Misfit}
      (hbefore : ∀ earlier ∈ before, EntryConforms fields earlier)
      (hfield : fieldNamed? fields key.name = some field)
      (hnode : Offence field.shape key.line node misfit) :
      Offence (.record name fields) keyLine (.table line form (before ++ (key, node) :: after))
        misfit
  /-- The first required field without a key, when all entries conform. -/
  | missingField {name : String} {fields before after : List (FieldShape Shape)}
      {field : FieldShape Shape} {keyLine : Nat} {line : Option Nat} {form : Toml.TableForm}
      {entries : Toml.Entries}
      (hentries : ∀ entry ∈ entries, EntryConforms fields entry)
      (hfields : fields = before ++ field :: after)
      (hbefore : ∀ earlier ∈ before, earlier.required = true →
        ∃ entry ∈ entries, entry.1.name = earlier.name)
      (hrequired : field.required = true)
      (habsent : ∀ entry ∈ entries, entry.1.name ≠ field.name) :
      Offence (.record name fields) keyLine (.table line form entries)
        ⟨line.getD keyLine, .missingField field.name⟩
  /-- The first item of a record written as a list that does not conform to its field. -/
  | place {name : String} {fields : List (FieldShape Shape)} {keyLine line : Nat}
      {form : Toml.ListForm} {items : List Toml.Node}
      {before after : List (FieldShape Shape × Toml.Node)} {field : FieldShape Shape}
      {node : Toml.Node} {misfit : Misfit}
      (hitems : fields.zip items = before ++ (field, node) :: after)
      (hbefore : ∀ earlier ∈ before, Conforms earlier.1.shape earlier.2)
      (hnode : Offence field.shape line node misfit) :
      Offence (.record name fields) keyLine (.list line form items) misfit
  /-- The first required field behind the last item, when all items conform. -/
  | tooShort {name : String} {fields before after : List (FieldShape Shape)}
      {field : FieldShape Shape} {keyLine line : Nat} {form : Toml.ListForm}
      {items : List Toml.Node}
      (hvalues : ∀ pair ∈ fields.zip items, Conforms pair.1.shape pair.2)
      (hbehind : fields.drop items.length = before ++ field :: after)
      (hbefore : ∀ earlier ∈ before, earlier.required = false)
      (hrequired : field.required = true) :
      Offence (.record name fields) keyLine (.list line form items)
        ⟨line, .invalidLength (items.length + before.length)
          ("struct " ++ name ++ " with " ++ toString fields.length ++ " elements")⟩
  /-- A date stands for a table with one key, which is no field. -/
  | dateTime {name : String} {fields : List (FieldShape Shape)} {keyLine line : Nat}
      {source : String} :
      Offence (.record name fields) keyLine (.scalar line (.dateTime source))
        ⟨line, .unknownField Record.dateTimeKey (fields.map (·.name))⟩
  | scalar {name : String} {fields : List (FieldShape Shape)} {keyLine line : Nat}
      {value : Toml.Scalar} (hkind : ∀ source, value ≠ .dateTime source) :
      Offence (.record name fields) keyLine (.scalar line value)
        ⟨line, .invalidType (description (.scalar line value)) ("struct " ++ name)⟩

section Shapes

def shardedTableShape : Shape :=
  .record "ShardedTable"
    [⟨"name", false, .text⟩, ⟨"column", false, .text⟩, ⟨"generate_key_column", false, .text⟩]

def encryptedColumnShape : Shape :=
  .record "EncryptedColumn"
    [⟨"name", true, .text⟩, ⟨"cipher_column", true, .text⟩,
      ⟨"assisted_query_column", false, .text⟩]

def encryptedTableShape : Shape :=
  .record "EncryptedTable"
    [⟨"name", true, .text⟩, ⟨"columns", false, .list encryptedColumnShape⟩]

def tableDefinitionShape : Shape :=
  .record "TableDefinition" [⟨"name", true, .text⟩, ⟨"columns", false, .list .text⟩]

def configShape : Shape :=
  .record "Config"
    [⟨"sharded_tables", false, .list shardedTableShape⟩,
      ⟨"encrypted_tables", false, .list encryptedTableShape⟩,
      ⟨"tables", false, .list tableDefinitionShape⟩]

end Shapes

section Values

/-- The text that a value is. -/
def textAt : Toml.Node → String
  | .scalar _ (.string text) => text
  | _ => ""

/-- The items of a value that is a list. -/
def itemsAt : Toml.Node → List Toml.Node
  | .list _ _ items => items
  | _ => []

/-- The items of a list, each under the name at its place. -/
def namedItems (names : List String) (line : Nat) (items : List Toml.Node) : Toml.Entries :=
  (names.zip items).map fun pair => (⟨pair.1, line⟩, pair.2)

/-- The entries of a record: those of a table, or the items of a list, each under the name
of the field at its place. -/
def recordEntries (names : List String) : Toml.Node → Toml.Entries
  | .table _ _ entries => entries
  | .list line _ items => namedItems names line items
  | .scalar _ _ => []

/-- The values under a name, in the order of the document. -/
def valuesOf (name : String) (entries : Toml.Entries) : List Toml.Node :=
  (entries.filter (·.1.name == name)).map (·.2)

/-- The value under a name.  A key stands in a table only once; of several values the last
one would count. -/
def value? (name : String) (entries : Toml.Entries) : Option Toml.Node :=
  (valuesOf name entries).getLast?

def shardedTableAt (node : Toml.Node) : ShardedTable :=
  let given := recordEntries ["name", "column", "generate_key_column"] node
  { name := (value? "name" given).map textAt
    column := (value? "column" given).elim "" textAt
    generateKeyColumn := (value? "generate_key_column" given).map textAt }

def encryptedColumnAt (node : Toml.Node) : EncryptedColumn :=
  let given := recordEntries ["name", "cipher_column", "assisted_query_column"] node
  { name := (value? "name" given).elim "" textAt
    cipherColumn := (value? "cipher_column" given).elim "" textAt
    assistedQueryColumn := (value? "assisted_query_column" given).map textAt }

def encryptedTableAt (node : Toml.Node) : EncryptedTable :=
  let given := recordEntries ["name", "columns"] node
  { name := (value? "name" given).elim "" textAt
    columns := (value? "columns" given).elim [] fun list => (itemsAt list).map encryptedColumnAt }

def tableDefinitionAt (node : Toml.Node) : TableDefinition :=
  let given := recordEntries ["name", "columns"] node
  { name := (value? "name" given).elim "" textAt
    columns := (value? "columns" given).elim [] fun list => (itemsAt list).map textAt }

/-- The configuration that a value holds: every field that is given, and the default for
every other one. -/
def configAt (node : Toml.Node) : Config :=
  let given := recordEntries ["sharded_tables", "encrypted_tables", "tables"] node
  { shardedTables :=
      (value? "sharded_tables" given).elim [] fun list => (itemsAt list).map shardedTableAt
    encryptedTables :=
      (value? "encrypted_tables" given).elim [] fun list => (itemsAt list).map encryptedTableAt
    tables :=
      (value? "tables" given).elim [] fun list => (itemsAt list).map tableDefinitionAt }

theorem namedItems_cons_cons (name : String) (names : List String) (line : Nat)
    (node : Toml.Node) (items : List Toml.Node) :
    namedItems (name :: names) line (node :: items) =
      (⟨name, line⟩, node) :: namedItems names line items :=
  rfl

theorem namedItems_map_name (fields : List (FieldShape Shape)) (line : Nat)
    (items : List Toml.Node) :
    namedItems (fields.map (·.name)) line items =
      (fields.zip items).map fun pair => (⟨pair.1.name, line⟩, pair.2) := by
  unfold namedItems
  rw [List.zip_map_left, List.map_map]
  rfl

theorem valuesOf_cons (name : String) (entry : Toml.Key × Toml.Node) (rest : Toml.Entries) :
    valuesOf name (entry :: rest) =
      (if entry.1.name = name then [entry.2] else []) ++ valuesOf name rest := by
  unfold valuesOf
  by_cases hname : entry.1.name = name
  · rw [List.filter_cons_of_pos (by simp [hname]), if_pos hname]
    rfl
  · rw [List.filter_cons_of_neg (by simp [hname]), if_neg hname]
    rfl

theorem value?_cons (name : String) (entry : Toml.Key × Toml.Node) (rest : Toml.Entries) :
    value? name (entry :: rest) =
      (value? name rest).or (if entry.1.name = name then some entry.2 else none) := by
  unfold value?
  rw [valuesOf_cons, List.getLast?_append]
  split <;> rfl

theorem mem_valuesOf_iff {name : String} {entries : Toml.Entries} {node : Toml.Node} :
    node ∈ valuesOf name entries ↔ ∃ key, (key, node) ∈ entries ∧ key.name = name := by
  unfold valuesOf
  simp

end Values

end Config
end InsertRouting
