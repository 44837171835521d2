import InsertRouting.Proofs.Config.Order
import InsertRouting.Proofs.Config.Reading

namespace InsertRouting
namespace Config

/-!
# What the reader of configurations accepts

The reader of every part of a configuration follows the shape of this part: a document is
read if and only if it conforms, the configuration is the one that the document holds, and
otherwise the first offence is reported.  The order of keys and the places of values have no
influence on the configuration; they decide only which offence is the first.
-/

section Parts

variable {α β : Type}

/-- A part of a record is what the field under this name holds: `held` of its value. -/
structure HeldUnder (specs : List (FieldSpec α)) (name : String) (part : α → β)
    (held : Toml.Node → β) : Prop where
  declared : name ∈ specs.map (·.field.name)
  part_put : ∀ spec ∈ specs, ∀ node record,
    part (spec.put node record) = if spec.field.name = name then held node else part record

variable {specs : List (FieldSpec α)} {name : String} {part : α → β} {held : Toml.Node → β}

/-- An entry changes the parts of its own field only. -/
theorem HeldUnder.part_putEntry (hpart : HeldUnder specs name part held) (record : α)
    (entry : Toml.Key × Toml.Node) :
    part (putEntry specs record entry) =
      if entry.1.name = name then held entry.2 else part record := by
  unfold putEntry
  cases hfound : specs.find? (·.field.name == entry.1.name) with
  | some spec =>
      have hsame : spec.field.name = entry.1.name := by
        simpa using List.find?_some hfound
      have hmem : spec ∈ specs := List.mem_of_find?_eq_some hfound
      show part (spec.put entry.2 record) = _
      rw [hpart.part_put spec hmem, hsame]
  | none =>
      have hother : entry.1.name ≠ name := by
        rintro rfl
        obtain ⟨spec, hmem, hspec⟩ := List.mem_map.1 hpart.declared
        exact List.find?_eq_none.1 hfound spec hmem (beq_iff_eq.2 hspec)
      rw [if_neg hother]

/-- The part holds the value that is given for its field, and the default when there is
none. -/
theorem HeldUnder.part_foldl (hpart : HeldUnder specs name part held) (entries : Toml.Entries)
    (record : α) :
    part (entries.foldl (putEntry specs) record) =
      (value? name entries).elim (part record) held := by
  induction entries generalizing record with
  | nil => rfl
  | cons entry rest ih =>
      rw [List.foldl_cons, ih, value?_cons, hpart.part_putEntry]
      -- A later entry of the same name wins over this one.
      cases value? name rest with
      | some node => rfl
      | none => by_cases hsame : entry.1.name = name <;> simp [hsame]

/-- A part that is a text or nothing. -/
theorem HeldUnder.part_foldl_eq_map {part : α → Option β} {text : Toml.Node → β}
    (hpart : HeldUnder specs name part (fun node => some (text node))) (entries : Toml.Entries)
    {record : α} (hdefault : part record = none) :
    part (entries.foldl (putEntry specs) record) = (value? name entries).map text := by
  rw [hpart.part_foldl, hdefault]
  cases value? name entries <;> rfl

end Parts

section Records

def shardedTableSpecs : List (FieldSpec ShardedTable) :=
  [⟨⟨"name", false, .text⟩, fun node entry => { entry with name := some (textAt node) }⟩,
    ⟨⟨"column", false, .text⟩, fun node entry => { entry with column := textAt node }⟩,
    ⟨⟨"generate_key_column", false, .text⟩,
      fun node entry => { entry with generateKeyColumn := some (textAt node) }⟩]

theorem reads_shardedTable : Reads shardedTableRecord.read shardedTableShape shardedTableAt := by
  have hfields : List.Forall₂ FieldReads shardedTableRecord.fields shardedTableSpecs :=
    .cons (.string _ _ _) (.cons (.string _ _ _) (.cons (.string _ _ _) .nil))
  have hname : HeldUnder shardedTableSpecs "name" (·.name) (fun node => some (textAt node)) :=
    ⟨by simp [shardedTableSpecs], by simp [shardedTableSpecs]⟩
  have hcolumn : HeldUnder shardedTableSpecs "column" (·.column) textAt :=
    ⟨by simp [shardedTableSpecs], by simp [shardedTableSpecs]⟩
  have hkey : HeldUnder shardedTableSpecs "generate_key_column" (·.generateKeyColumn)
      (fun node => some (textAt node)) :=
    ⟨by simp [shardedTableSpecs], by simp [shardedTableSpecs]⟩
  refine (Reads.record hfields (by decide)).of_value_eq fun node => ?_
  ext1
  · exact hname.part_foldl_eq_map _ rfl
  · exact hcolumn.part_foldl _ _
  · exact hkey.part_foldl_eq_map _ rfl

def encryptedColumnSpecs : List (FieldSpec EncryptedColumn) :=
  [⟨⟨"name", true, .text⟩, fun node column => { column with name := textAt node }⟩,
    ⟨⟨"cipher_column", true, .text⟩,
      fun node column => { column with cipherColumn := textAt node }⟩,
    ⟨⟨"assisted_query_column", false, .text⟩,
      fun node column => { column with assistedQueryColumn := some (textAt node) }⟩]

theorem reads_encryptedColumn :
    Reads encryptedColumnRecord.read encryptedColumnShape encryptedColumnAt := by
  have hfields : List.Forall₂ FieldReads encryptedColumnRecord.fields encryptedColumnSpecs :=
    .cons (.string _ _ _) (.cons (.string _ _ _) (.cons (.string _ _ _) .nil))
  have hname : HeldUnder encryptedColumnSpecs "name" (·.name) textAt :=
    ⟨by simp [encryptedColumnSpecs], by simp [encryptedColumnSpecs]⟩
  have hcipher : HeldUnder encryptedColumnSpecs "cipher_column" (·.cipherColumn) textAt :=
    ⟨by simp [encryptedColumnSpecs], by simp [encryptedColumnSpecs]⟩
  have hassisted : HeldUnder encryptedColumnSpecs "assisted_query_column"
      (·.assistedQueryColumn) (fun node => some (textAt node)) :=
    ⟨by simp [encryptedColumnSpecs], by simp [encryptedColumnSpecs]⟩
  refine (Reads.record hfields (by decide)).of_value_eq fun node => ?_
  ext1
  · exact hname.part_foldl _ _
  · exact hcipher.part_foldl _ _
  · exact hassisted.part_foldl_eq_map _ rfl

def encryptedTableSpecs : List (FieldSpec EncryptedTable) :=
  [⟨⟨"name", true, .text⟩, fun node table => { table with name := textAt node }⟩,
    ⟨⟨"columns", false, .list encryptedColumnShape⟩,
      fun node table => { table with columns := (itemsAt node).map encryptedColumnAt }⟩]

theorem reads_encryptedTable :
    Reads encryptedTableRecord.read encryptedTableShape encryptedTableAt := by
  have hfields : List.Forall₂ FieldReads encryptedTableRecord.fields encryptedTableSpecs :=
    .cons (.string _ _ _) (.cons (.list reads_encryptedColumn _ _) .nil)
  have hname : HeldUnder encryptedTableSpecs "name" (·.name) textAt :=
    ⟨by simp [encryptedTableSpecs], by simp [encryptedTableSpecs]⟩
  have hcolumns : HeldUnder encryptedTableSpecs "columns" (·.columns)
      (fun node => (itemsAt node).map encryptedColumnAt) :=
    ⟨by simp [encryptedTableSpecs], by simp [encryptedTableSpecs]⟩
  refine (Reads.record hfields (by decide)).of_value_eq fun node => ?_
  ext1
  · exact hname.part_foldl _ _
  · exact hcolumns.part_foldl _ _

def tableDefinitionSpecs : List (FieldSpec TableDefinition) :=
  [⟨⟨"name", true, .text⟩, fun node table => { table with name := textAt node }⟩,
    ⟨⟨"columns", false, .list .text⟩,
      fun node table => { table with columns := (itemsAt node).map textAt }⟩]

theorem reads_tableDefinition :
    Reads tableDefinitionRecord.read tableDefinitionShape tableDefinitionAt := by
  have hfields : List.Forall₂ FieldReads tableDefinitionRecord.fields tableDefinitionSpecs :=
    .cons (.string _ _ _) (.cons (.list reads_string _ _) .nil)
  have hname : HeldUnder tableDefinitionSpecs "name" (·.name) textAt :=
    ⟨by simp [tableDefinitionSpecs], by simp [tableDefinitionSpecs]⟩
  have hcolumns : HeldUnder tableDefinitionSpecs "columns" (·.columns)
      (fun node => (itemsAt node).map textAt) :=
    ⟨by simp [tableDefinitionSpecs], by simp [tableDefinitionSpecs]⟩
  refine (Reads.record hfields (by decide)).of_value_eq fun node => ?_
  ext1
  · exact hname.part_foldl _ _
  · exact hcolumns.part_foldl _ _

def configSpecs : List (FieldSpec Config) :=
  [⟨⟨"sharded_tables", false, .list shardedTableShape⟩,
      fun node config => { config with shardedTables := (itemsAt node).map shardedTableAt }⟩,
    ⟨⟨"encrypted_tables", false, .list encryptedTableShape⟩,
      fun node config => { config with encryptedTables := (itemsAt node).map encryptedTableAt }⟩,
    ⟨⟨"tables", false, .list tableDefinitionShape⟩,
      fun node config => { config with tables := (itemsAt node).map tableDefinitionAt }⟩]

theorem reads_config : Reads configRecord.read configShape configAt := by
  have hfields : List.Forall₂ FieldReads configRecord.fields configSpecs :=
    .cons (.list reads_shardedTable _ _)
      (.cons (.list reads_encryptedTable _ _) (.cons (.list reads_tableDefinition _ _) .nil))
  have hsharded : HeldUnder configSpecs "sharded_tables" (·.shardedTables)
      (fun node => (itemsAt node).map shardedTableAt) :=
    ⟨by simp [configSpecs], by simp [configSpecs]⟩
  have hencrypted : HeldUnder configSpecs "encrypted_tables" (·.encryptedTables)
      (fun node => (itemsAt node).map encryptedTableAt) :=
    ⟨by simp [configSpecs], by simp [configSpecs]⟩
  have htables : HeldUnder configSpecs "tables" (·.tables)
      (fun node => (itemsAt node).map tableDefinitionAt) :=
    ⟨by simp [configSpecs], by simp [configSpecs]⟩
  refine (Reads.record hfields (by decide)).of_value_eq fun node => ?_
  ext1
  · exact hsharded.part_foldl _ _
  · exact hencrypted.part_foldl _ _
  · exact htables.part_foldl _ _

end Records

section Documents

/-- A document is a table from its first line on. -/
def document (entries : Toml.Entries) : Toml.Node :=
  .table (some 1) .headed entries

/-- A document is read if and only if it conforms to the schema.  What is read is the
configuration that the document holds, whatever the order of its keys and the places of its
values; what is refused is refused for the first offence. -/
theorem ofEntries_follows_schema (entries : Toml.Entries) :
    ((∃ config, ofEntries entries = .ok config) ↔ Conforms configShape (document entries)) ∧
    (∀ config, ofEntries entries = .ok config → config = configAt (document entries)) ∧
    (∀ misfit, ofEntries entries = .error misfit ↔
      Offence configShape 1 (document entries) misfit) ∧
    (∀ others, Reordered (document entries) (document others) → ∀ config,
      ofEntries entries = .ok config ↔ ofEntries others = .ok config) := by
  have hok : ∀ entries config, ofEntries entries = .ok config ↔
      Conforms configShape (document entries) ∧ config = configAt (document entries) :=
    fun _ _ => reads_config.eq_ok_iff
  refine ⟨⟨?_, ?_⟩, ?_, fun _ => reads_config.eq_error_iff, ?_⟩
  · rintro ⟨config, hread⟩
    exact ((hok entries config).1 hread).1
  · intro hconforms
    exact ⟨configAt (document entries), (hok entries _).2 ⟨hconforms, rfl⟩⟩
  · intro config hread
    exact ((hok entries config).1 hread).2
  · intro others hsame config
    -- Both documents hold the same configuration, so only their conforming is compared.
    rw [hok, hok, orderFree_configAt _ _ hsame]
    have hconforms : Conforms configShape (document entries) ↔
        Conforms configShape (document others) :=
      ⟨fun hentries => hentries.of_reordered hsame,
        fun hothers => hothers.of_reordered hsame.symm⟩
    rw [hconforms]

/-- A document with a table and a list for the same record, and its keys turned around. -/
theorem ofEntries_follows_schema_sample :
    let orders : Toml.Node := .table (some 1) .inline
      [(⟨"name", 1⟩, .scalar 1 (.string "orders")), (⟨"column", 1⟩, .scalar 1 (.string "id"))]
    let items : Toml.Node := .list 2 .inline
      [.scalar 2 (.string "items"), .scalar 2 (.string "order_id")]
    let sharded : Toml.Key × Toml.Node :=
      (⟨"sharded_tables", 1⟩, .list 1 .inline [orders, items])
    let tables : Toml.Key × Toml.Node := (⟨"tables", 3⟩, .list 3 .inline [])
    let config : Config :=
      { shardedTables := [⟨some "orders", "id", none⟩, ⟨some "items", "order_id", none⟩] }
    Reordered (document [sharded, tables]) (document [tables, sharded]) ∧
      ofEntries [sharded, tables] = .ok config ∧ ofEntries [tables, sharded] = .ok config := by
  intro orders items sharded tables config
  have hsame : Reordered (document [sharded, tables]) (document [tables, sharded]) :=
    .of_perm (.swap tables sharded []) (by decide) _ _ _ _
  have hread : ofEntries [sharded, tables] = .ok config := by rfl
  obtain ⟨-, -, -, horder⟩ := ofEntries_follows_schema [sharded, tables]
  exact ⟨hsame, hread, (horder _ hsame config).1 hread⟩

/-- A column that is written as a list is refused when it ends before the cipher column. -/
example :
    let column : Toml.Node := .list 3 .inline [.scalar 3 (.string "pwd")]
    let table : Toml.Node := .table (some 1) .inline
      [(⟨"name", 1⟩, .scalar 1 (.string "users")), (⟨"columns", 2⟩, .list 2 .inline [column])]
    ofEntries [(⟨"encrypted_tables", 1⟩, .list 1 .inline [table])] =
      .error ⟨3, .invalidLength 1 "struct EncryptedColumn with 3 elements"⟩ := by rfl

end Documents

end Config
end InsertRouting
