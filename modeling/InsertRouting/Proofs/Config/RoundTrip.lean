import InsertRouting.Config.Writer
import InsertRouting.Proofs.Config.Files
import InsertRouting.Proofs.Toml.Sections

namespace InsertRouting
namespace Config

/-!
# A written configuration is read back

The document of a configuration is a sequence of written lines (`writtenLines`): sections for
its entries, and inside the section of an encrypted table sections for its columns.  The
tables that these sections become are read as the entries they were written for, whatever
texts the entries hold, so reading the document gives the configuration.
-/

open Toml (BareName WrittenValue WrittenLine Entries Node Collected Fills IsTableOf
  pairEntries pairLines sectionLines)

section Lines

namespace Names

def shardedTables : BareName := ⟨"sharded_tables", by decide, by decide⟩
def encryptedTables : BareName := ⟨"encrypted_tables", by decide, by decide⟩
def tables : BareName := ⟨"tables", by decide, by decide⟩
def columns : BareName := ⟨"columns", by decide, by decide⟩
def name : BareName := ⟨"name", by decide, by decide⟩
def column : BareName := ⟨"column", by decide, by decide⟩
def generateKeyColumn : BareName := ⟨"generate_key_column", by decide, by decide⟩
def cipherColumn : BareName := ⟨"cipher_column", by decide, by decide⟩
def assistedQueryColumn : BareName := ⟨"assisted_query_column", by decide, by decide⟩

end Names

/-- A key with a text, if there is one. -/
def optionalPair (key : BareName) : Option String → List (BareName × WrittenValue)
  | some text => [(key, .text text)]
  | none => []

def shardedTablePairs (entry : ShardedTable) : List (BareName × WrittenValue) :=
  optionalPair Names.name entry.name ++ (Names.column, .text entry.column) ::
    optionalPair Names.generateKeyColumn entry.generateKeyColumn

def encryptedColumnPairs (column : EncryptedColumn) : List (BareName × WrittenValue) :=
  (Names.name, .text column.name) :: (Names.cipherColumn, .text column.cipherColumn) ::
    optionalPair Names.assistedQueryColumn column.assistedQueryColumn

def tableDefinitionPairs (table : TableDefinition) : List (BareName × WrittenValue) :=
  [(Names.name, .text table.name), (Names.columns, .texts table.columns)]

/-- The lines behind the header of an encrypted table: its name, and sections for its
columns. -/
def encryptedTableLines (table : EncryptedTable) : List WrittenLine :=
  .pair Names.name (.text table.name) ::
    sectionLines [Names.encryptedTables] Names.columns (by decide)
      (fun column => pairLines (encryptedColumnPairs column)) table.columns

/-- The lines of a configuration. -/
def writtenLines (config : Config) : List WrittenLine :=
  sectionLines [] Names.shardedTables (by decide)
      (fun entry => pairLines (shardedTablePairs entry)) config.shardedTables ++
    (sectionLines [] Names.encryptedTables (by decide) encryptedTableLines
        config.encryptedTables ++
      sectionLines [] Names.tables (by decide)
        (fun table => pairLines (tableDefinitionPairs table)) config.tables)

theorem flatMap_chars_sectionLines {α : Type} (front : List BareName) (last : BareName)
    (short : front.length + 1 < Toml.pathLimit) (body : α → List WrittenLine) (given : List α) :
    (sectionLines front last short body given).flatMap WrittenLine.chars =
      given.flatMap fun item => (WrittenLine.itemHeader front last short).chars ++
        (body item).flatMap WrittenLine.chars := by
  unfold sectionLines
  rw [List.flatMap_assoc]
  rfl

theorem flatMap_chars_optionalPair (key : BareName) (text : Option String) :
    (pairLines (optionalPair key text)).flatMap WrittenLine.chars =
      Toml.writeText? key.text text := by
  cases text with
  | none => rfl
  | some text => exact List.append_nil _

theorem flatMap_chars_pairLines_cons (key : BareName) (value : WrittenValue)
    (pairs : List (BareName × WrittenValue)) :
    (pairLines ((key, value) :: pairs)).flatMap WrittenLine.chars =
      Toml.writePair key.text value.chars ++ (pairLines pairs).flatMap WrittenLine.chars :=
  rfl

theorem flatMap_chars_pairLines_append (first second : List (BareName × WrittenValue)) :
    (pairLines (first ++ second)).flatMap WrittenLine.chars =
      (pairLines first).flatMap WrittenLine.chars ++
        (pairLines second).flatMap WrittenLine.chars := by
  unfold pairLines
  rw [List.map_append, List.flatMap_append]

theorem chars_itemHeader (last : BareName) :
    (WrittenLine.itemHeader [] last).chars = Toml.writeItemHeader last.text :=
  rfl

theorem writeShardedTable_eq (entry : ShardedTable) :
    writeShardedTable entry =
      (WrittenLine.itemHeader [] Names.shardedTables).chars ++
        (pairLines (shardedTablePairs entry)).flatMap WrittenLine.chars := by
  rw [shardedTablePairs, flatMap_chars_pairLines_append, flatMap_chars_pairLines_cons,
    flatMap_chars_optionalPair, flatMap_chars_optionalPair, chars_itemHeader]
  simp only [writeShardedTable, List.append_assoc]
  rfl

theorem writeEncryptedColumn_eq (column : EncryptedColumn) :
    writeEncryptedColumn column =
      (WrittenLine.itemHeader [Names.encryptedTables] Names.columns).chars ++
        (pairLines (encryptedColumnPairs column)).flatMap WrittenLine.chars := by
  have hheader : Toml.writeItemHeader "encrypted_tables.columns" =
      (WrittenLine.itemHeader [Names.encryptedTables] Names.columns).chars := by decide
  rw [encryptedColumnPairs, flatMap_chars_pairLines_cons, flatMap_chars_pairLines_cons,
    flatMap_chars_optionalPair, ← hheader]
  simp only [writeEncryptedColumn, List.append_assoc]
  rfl

theorem writeEncryptedTable_eq (table : EncryptedTable) :
    writeEncryptedTable table =
      (WrittenLine.itemHeader [] Names.encryptedTables).chars ++
        (encryptedTableLines table).flatMap WrittenLine.chars := by
  rw [encryptedTableLines, List.flatMap_cons, flatMap_chars_sectionLines, chars_itemHeader,
    ← funext writeEncryptedColumn_eq]
  simp only [writeEncryptedTable, List.append_assoc]
  rfl

theorem writeTableDefinition_eq (table : TableDefinition) :
    writeTableDefinition table =
      (WrittenLine.itemHeader [] Names.tables).chars ++
        (pairLines (tableDefinitionPairs table)).flatMap WrittenLine.chars := by
  rw [tableDefinitionPairs, flatMap_chars_pairLines_cons, flatMap_chars_pairLines_cons,
    chars_itemHeader]
  simp only [writeTableDefinition, List.append_assoc]
  exact congrArg _ (congrArg _ (List.append_nil _).symm)

/-- The document of a configuration consists of its lines. -/
theorem toList_write (config : Config) :
    config.write.toList = (writtenLines config).flatMap WrittenLine.chars := by
  rw [write, String.toList_ofList, writtenLines, List.flatMap_append, List.flatMap_append,
    flatMap_chars_sectionLines, flatMap_chars_sectionLines, flatMap_chars_sectionLines,
    ← funext writeShardedTable_eq, ← funext writeEncryptedTable_eq,
    ← funext writeTableDefinition_eq, List.append_assoc]

end Lines

section Reading

variable {α β : Type}

/-- A table with these entries is read as the item. -/
def ReadsAs (shape : Record α) (item : α) (entries : Entries) : Prop :=
  ∀ keyLine line form, shape.read keyLine (.table line form entries) = .ok item

theorem readsAs_shardedTable (entry : ShardedTable) (number : Nat) :
    ReadsAs shardedTableRecord entry (pairEntries number (shardedTablePairs entry)) := by
  obtain ⟨name, column, generateKeyColumn⟩ := entry
  intro keyLine line form
  cases name <;> cases generateKeyColumn <;> rfl

theorem readsAs_encryptedColumn (column : EncryptedColumn) (number : Nat) :
    ReadsAs encryptedColumnRecord column (pairEntries number (encryptedColumnPairs column)) := by
  obtain ⟨name, cipherColumn, assistedQueryColumn⟩ := column
  intro keyLine line form
  cases assistedQueryColumn <;> rfl

theorem readItems_textNode (line keyLine : Nat) (texts : List String) :
    readItems readString keyLine (texts.map (Toml.textNode line)) = .ok texts := by
  induction texts with
  | nil => rfl
  | cons text texts ih =>
      rw [List.map_cons, readItems, ih]
      rfl

theorem readItems_of_isTableOf {shape : Record α} {nodes : List Node} {items : List α}
    (hnodes : List.Forall₂ (IsTableOf (ReadsAs shape)) nodes items) (line : Nat) :
    readItems shape.read line nodes = .ok items := by
  induction hnodes with
  | nil => rfl
  | cons hnode _ ih =>
      obtain ⟨start, entries, rfl, hreads⟩ := hnode
      rw [readItems, hreads line (some start) .headed, ih]
      rfl

section Entries

variable {shape : Record α} {record next : α} {key : Toml.Key} {node : Node} {rest : Entries}

theorem readEntries_cons {field : Field α}
    (hfield : shape.fields.find? (·.name == key.name) = some field)
    (hread : field.read key.line node record = .ok next) :
    shape.readEntries record ((key, node) :: rest) = shape.readEntries next rest := by
  rw [Record.readEntries, hfield]
  simp only [hread]
  rfl

/-- A collected list of tables is read as the list of its items; without tables the record
keeps its default. -/
theorem readEntries_of_collected {item : Record β} {name : String} {put : List β → α → α}
    (hfield : shape.fields.find? (·.name == name) = some (.list name item.read put))
    {nodes : List Node} {list : Entries} (hlist : Collected name nodes list) {items : List β}
    (hnodes : List.Forall₂ (IsTableOf (ReadsAs item)) nodes items)
    (hdefault : put [] record = record) :
    shape.readEntries record (list ++ rest) = shape.readEntries (put items record) rest := by
  cases hlist with
  | none =>
      cases hnodes
      rw [hdefault, List.nil_append]
  | some hkey line hne =>
      refine readEntries_cons (hkey ▸ hfield) ?_
      show (readItems item.read line nodes).map (put · record) = _
      rw [readItems_of_isTableOf hnodes]
      rfl

theorem readsAs_of_readEntries {entries : Entries}
    (hread : shape.readEntries shape.default entries = .ok record)
    (hgiven : shape.missing? entries = none) : ReadsAs shape record entries := by
  intro keyLine line form
  simp only [Record.read, hread, bind, Except.bind, hgiven]

end Entries

theorem readsAs_tableDefinition (table : TableDefinition) (number : Nat) :
    ReadsAs tableDefinitionRecord table (pairEntries number (tableDefinitionPairs table)) := by
  have hcolumns : (readItems readString (number + 1)
      (table.columns.map (Toml.textNode (number + 1)))).map
        (fun columns : List String => (⟨table.name, columns⟩ : TableDefinition)) = .ok table := by
    rw [readItems_textNode]
    rfl
  have hname : tableDefinitionRecord.readEntries tableDefinitionRecord.default
      (pairEntries number (tableDefinitionPairs table)) =
        tableDefinitionRecord.readEntries ⟨table.name, []⟩
          (pairEntries (number + 1) [(Names.columns, .texts table.columns)]) :=
    readEntries_cons rfl rfl
  exact readsAs_of_readEntries (hname.trans (readEntries_cons rfl hcolumns)) rfl

/-- The name of an encrypted table stands in front of the list of its columns. -/
theorem readsAs_encryptedTable (table : EncryptedTable) (number : Nat) {nodes : List Node}
    {list : Entries} (hlist : Collected "columns" nodes list)
    (hnodes : List.Forall₂ (IsTableOf (ReadsAs encryptedColumnRecord)) nodes table.columns) :
    ReadsAs encryptedTableRecord table
      ((Names.name.key number, Toml.textNode number table.name) :: list) := by
  have hname : encryptedTableRecord.readEntries encryptedTableRecord.default
      ((Names.name.key number, Toml.textNode number table.name) :: list) =
        encryptedTableRecord.readEntries ⟨table.name, []⟩ list :=
    readEntries_cons rfl rfl
  have hcolumns : encryptedTableRecord.readEntries ⟨table.name, []⟩ list = .ok table := by
    rw [← List.append_nil list, readEntries_of_collected rfl hlist hnodes rfl]
    rfl
  exact readsAs_of_readEntries (hname.trans hcolumns) rfl

end Reading

section Sections

theorem fills_shardedTable (entry : ShardedTable) (names : List String) :
    Fills names (pairLines (shardedTablePairs entry)) (ReadsAs shardedTableRecord entry) := by
  refine Toml.fills_pairLines names ?_ (readsAs_shardedTable entry)
  obtain ⟨name, column, generateKeyColumn⟩ := entry
  cases name <;> cases generateKeyColumn <;>
    simp [shardedTablePairs, optionalPair, Names.name, Names.column, Names.generateKeyColumn]

theorem fills_encryptedColumn (column : EncryptedColumn) (names : List String) :
    Fills names (pairLines (encryptedColumnPairs column))
      (ReadsAs encryptedColumnRecord column) := by
  refine Toml.fills_pairLines names ?_ (readsAs_encryptedColumn column)
  obtain ⟨name, cipherColumn, assistedQueryColumn⟩ := column
  cases assistedQueryColumn <;>
    simp [encryptedColumnPairs, optionalPair, Names.name, Names.cipherColumn,
      Names.assistedQueryColumn]

theorem fills_tableDefinition (table : TableDefinition) (names : List String) :
    Fills names (pairLines (tableDefinitionPairs table))
      (ReadsAs tableDefinitionRecord table) := by
  refine Toml.fills_pairLines names ?_ (readsAs_tableDefinition table)
  simp [tableDefinitionPairs, Names.name, Names.columns]

/-- The sections of the columns become a list inside the open table, because their header
leads through the list of the encrypted tables. -/
theorem fills_encryptedTable (table : EncryptedTable) :
    Fills [Names.encryptedTables.text] (encryptedTableLines table)
      (ReadsAs encryptedTableRecord table) := by
  intro levels path number hnames hpath
  have hname := Toml.assign_holding hpath [] (Names.name.key number)
    (Toml.textNode number table.name) (by simp)
  obtain ⟨added, lists, next, hextend, hlists, htables⟩ :=
    Toml.extendAll_sections [Names.encryptedTables] Names.columns (by decide)
      (fun column => fills_encryptedColumn column _) levels hnames
      [(Names.name.key number, Toml.textNode number table.name)]
      (by simp [Names.name, Names.columns, BareName.key]) table.columns .none path (number + 1)
  refine ⟨_, next, ?_, readsAs_encryptedTable table number hlists htables⟩
  rw [encryptedTableLines, Toml.extendAll_cons]
  exact Option.bind_eq_some_iff.2 ⟨_, hname, hextend⟩

/-- The lines of a configuration build the tree that holds it: one list for each kind of
entry, behind the lists of the kinds before it. -/
theorem exists_draft_writtenLines (config : Config) :
    ∃ draft, ({} : Toml.Draft).extendAll 1 (writtenLines config) = some draft ∧
      ReadsAs configRecord config draft.root := by
  obtain ⟨shardedNodes, sharded, first, hsharded, hshardedList, hshardedNodes⟩ :=
    Toml.extendAll_sections [] Names.shardedTables (by decide)
      (fun entry => fills_shardedTable entry _) [] rfl [] (by simp) config.shardedTables .none [] 1
  obtain ⟨encryptedNodes, encrypted, second, hencrypted, hencryptedList, hencryptedNodes⟩ :=
    Toml.extendAll_sections [] Names.encryptedTables (by decide) fills_encryptedTable [] rfl
      sharded (fun entry hmem => by rw [hshardedList.name_of_mem hmem]; decide)
      config.encryptedTables .none first (1 + List.length _)
  have hearlier : ∀ entry ∈ sharded ++ encrypted, entry.1.name ≠ Names.tables.text := by
    intro entry hmem
    rcases List.mem_append.1 hmem with hmem | hmem
    · rw [hshardedList.name_of_mem hmem]; decide
    · rw [hencryptedList.name_of_mem hmem]; decide
  obtain ⟨tableNodes, tables, third, htables, htablesList, htablesNodes⟩ :=
    Toml.extendAll_sections [] Names.tables (by decide)
      (fun table => fills_tableDefinition table _) [] rfl (sharded ++ encrypted) hearlier
      config.tables .none second (1 + List.length _ + List.length _)
  rw [List.append_nil] at hencrypted htables
  refine ⟨⟨sharded ++ encrypted ++ tables, third⟩, ?_, ?_⟩
  · rw [writtenLines, Toml.extendAll_append]
    refine Option.bind_eq_some_iff.2 ⟨_, hsharded, ?_⟩
    rw [Toml.extendAll_append]
    exact Option.bind_eq_some_iff.2 ⟨_, hencrypted, htables⟩
  · refine readsAs_of_readEntries ?_ rfl
    rw [List.append_assoc, ← List.append_nil tables,
      readEntries_of_collected rfl hshardedList hshardedNodes rfl,
      readEntries_of_collected rfl hencryptedList hencryptedNodes rfl,
      readEntries_of_collected rfl htablesList htablesNodes rfl]
    rfl

end Sections

/-- The document of a configuration is read as this configuration. -/
theorem parse_write (wording : Toml.Wording) (config : Config) :
    parse wording config.write = .ok config := by
  obtain ⟨draft, hextend, hreads⟩ := exists_draft_writtenLines config
  unfold parse
  rw [toList_write, Toml.document_flatMap_chars _ hextend]
  simp only [ofEntries, hreads 1 (some 1) .headed]

/-- A configuration that passes the check is written to a document and read back from it, and
what is reported on the way is what the check reports. -/
theorem ofText_write (wording : Toml.Wording) (config : Config)
    (haccepted : config.check.result = .ok ()) :
    ofText wording config.write = ⟨config.check.events, .ok config⟩ := by
  rw [ofText_of_read (parse_write wording config), checked_of_accepted haccepted]

/-- A configuration with quotes, backslashes, control characters and headers in its texts. -/
def awkwardTexts : Config where
  shardedTables := [⟨some "a\"b\\c", "é\n\x00ς", none⟩, ⟨none, "\x7f", some ""⟩]
  encryptedTables :=
    [⟨"user", [⟨"", "[[tables]]", some "\"\"\""⟩, ⟨"pwd", "pwd = 1 # no comment", none⟩]⟩,
      ⟨"\t", []⟩]
  tables := [⟨"", ["", "\r\n", "日"]⟩, ⟨"log", []⟩]

theorem ofText_write_sample :
    awkwardTexts.check.result = .ok () ∧
      ofText ConfigHolder.sampleWording awkwardTexts.write =
        ⟨awkwardTexts.check.events, .ok awkwardTexts⟩ := by
  have haccepted : awkwardTexts.check.result = .ok () :=
    result_check_eq_ok_iff.2 ⟨by decide, by decide⟩
  exact ⟨haccepted, ofText_write _ awkwardTexts haccepted⟩

example :
    write { shardedTables := [⟨none, "a\"\n", none⟩] } =
      "[[sharded_tables]]\ncolumn = \"a\\\"\\u000a\"\n" := by
  decide +kernel

end Config
end InsertRouting
