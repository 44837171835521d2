import InsertRouting.Proofs.Config.Schema
import InsertRouting.Proofs.Data.Related

namespace InsertRouting
namespace Config

/-!
# Reading a configuration accepts exactly its schema

A reader answers a value that conforms to its shape with what the value holds, and any
other value with its first offence.  This is shown for texts, carried over to lists and to
records, and then holds of the record of a configuration, part by part.

A record that is written as a list is read like the table that gives its items the names
of the fields, so the entries of tables are the only place where the order of the document
is followed.
-/

/-- The reader accepts the values of the shape, with what they hold, and refuses every other
value for its first offence. -/
structure Reads {α : Type} (read : Nat → Toml.Node → Except Misfit α) (shape : Shape)
    (value : Toml.Node → α) : Prop where
  accepts : ∀ keyLine node, Conforms shape node → read keyLine node = .ok (value node)
  refuses : ∀ keyLine node misfit, Offence shape keyLine node misfit →
    read keyLine node = .error misfit
  decides : ∀ keyLine node, Conforms shape node ∨ ∃ misfit, Offence shape keyLine node misfit

/-- Either all items are good, or there is a first bad one. -/
theorem all_or_first {α β : Type} {good : α → Prop} {bad : α → β → Prop} {items : List α}
    (hdecides : ∀ item ∈ items, good item ∨ ∃ report, bad item report) :
    (∀ item ∈ items, good item) ∨
      ∃ before item after report, items = before ++ item :: after ∧
        (∀ earlier ∈ before, good earlier) ∧ bad item report := by
  induction items with
  | nil => exact .inl fun item hmem => by cases hmem
  | cons first rest ih =>
      obtain ⟨hfirst, hothers⟩ := List.forall_mem_cons.1 hdecides
      -- Behind a good item the search goes on; a bad one ends it.
      rcases hfirst with hgood | ⟨report, hbad⟩
      · rcases ih hothers with hall | ⟨before, item, after, report, rfl, hbefore, hbad⟩
        · exact .inl (List.forall_mem_cons.2 ⟨hgood, hall⟩)
        · exact .inr ⟨first :: before, item, after, report, rfl,
            List.forall_mem_cons.2 ⟨hgood, hbefore⟩, hbad⟩
      · exact .inr ⟨[], first, rest, report, rfl, by simp, hbad⟩

section Readers

variable {α β : Type} {read : Nat → Toml.Node → Except Misfit α} {shape : Shape}
  {value : Toml.Node → α}

theorem Reads.eq_ok_iff (hreads : Reads read shape value) {keyLine : Nat} {node : Toml.Node}
    {result : α} :
    read keyLine node = .ok result ↔ Conforms shape node ∧ result = value node := by
  constructor
  · intro hok
    rcases hreads.decides keyLine node with hconforms | ⟨misfit, hoffence⟩
    · rw [hreads.accepts keyLine node hconforms] at hok
      cases hok
      exact ⟨hconforms, rfl⟩
    · rw [hreads.refuses keyLine node misfit hoffence] at hok
      cases hok
  · rintro ⟨hconforms, rfl⟩
    exact hreads.accepts keyLine node hconforms

theorem Reads.eq_error_iff (hreads : Reads read shape value) {keyLine : Nat}
    {node : Toml.Node} {misfit : Misfit} :
    read keyLine node = .error misfit ↔ Offence shape keyLine node misfit := by
  constructor
  · intro herror
    rcases hreads.decides keyLine node with hconforms | ⟨other, hoffence⟩
    · rw [hreads.accepts keyLine node hconforms] at herror
      cases herror
    · rw [hreads.refuses keyLine node other hoffence] at herror
      cases herror
      exact hoffence
  · exact hreads.refuses keyLine node misfit

theorem Reads.map (hreads : Reads read shape value) (f : α → β) :
    Reads (fun keyLine node => (read keyLine node).map f) shape (fun node => f (value node)) where
  accepts keyLine node hconforms := by
    rw [hreads.accepts keyLine node hconforms]
    rfl
  refuses keyLine node misfit hoffence := by
    rw [hreads.refuses keyLine node misfit hoffence]
    rfl
  decides := hreads.decides

theorem Reads.of_value_eq {other : Toml.Node → α} (hreads : Reads read shape value)
    (hvalue : ∀ node, value node = other node) : Reads read shape other := by
  rw [← funext hvalue]
  exact hreads

theorem reads_string : Reads readString .text textAt where
  accepts keyLine node hconforms := by
    cases hconforms
    rfl
  refuses keyLine node misfit hoffence := by
    cases hoffence with
    | text hkind =>
        unfold readString
        split
        · rename_i line text
          exact absurd rfl (hkind line text)
        · rfl
  decides keyLine node := by
    by_cases hkind : ∃ line text, node = .scalar line (.string text)
    · obtain ⟨line, text, rfl⟩ := hkind
      exact .inl (.text line text)
    · exact .inr ⟨_, .text fun line text htext => hkind ⟨line, text, htext⟩⟩

theorem readItems_of_conforms (hreads : Reads read shape value) (line : Nat)
    {items : List Toml.Node} (hitems : ∀ node ∈ items, Conforms shape node) :
    readItems read line items = .ok (items.map value) := by
  induction items with
  | nil => rfl
  | cons node rest ih =>
      obtain ⟨hnode, hrest⟩ := List.forall_mem_cons.1 hitems
      rw [readItems, hreads.accepts line node hnode, ih hrest]
      rfl

theorem readItems_of_offence (hreads : Reads read shape value) {line : Nat}
    {before after : List Toml.Node} {node : Toml.Node} {misfit : Misfit}
    (hbefore : ∀ earlier ∈ before, Conforms shape earlier)
    (hnode : Offence shape line node misfit) :
    readItems read line (before ++ node :: after) = .error misfit := by
  induction before with
  | nil =>
      rw [List.nil_append, readItems, hreads.refuses line node misfit hnode]
      rfl
  | cons first before ih =>
      obtain ⟨hfirst, hrest⟩ := List.forall_mem_cons.1 hbefore
      rw [List.cons_append, readItems, hreads.accepts line first hfirst, ih hrest]
      rfl

theorem Reads.list (hreads : Reads read shape value) :
    Reads (readList read) (.list shape) (fun node => (itemsAt node).map value) where
  accepts keyLine node hconforms := by
    cases hconforms with
    | list hitems => exact readItems_of_conforms hreads _ hitems
  refuses keyLine node misfit hoffence := by
    cases hoffence with
    | list hkind =>
        unfold readList
        split
        · rename_i line form items
          exact absurd rfl (hkind line form items)
        · rfl
    | item hbefore hnode => exact readItems_of_offence hreads hbefore hnode
  decides keyLine node := by
    cases node with
    | scalar line value => exact .inr ⟨_, .list fun _ _ _ hlist => by cases hlist⟩
    | table line form entries => exact .inr ⟨_, .list fun _ _ _ hlist => by cases hlist⟩
    | list line form items =>
        rcases all_or_first fun node (_ : node ∈ items) => hreads.decides line node with
          hall | ⟨before, node, after, misfit, rfl, hbefore, hnode⟩
        · exact .inl (.list hall)
        · exact .inr ⟨misfit, .item hbefore hnode⟩

end Readers

/-- A field as the schema has it, and how its value is put into a record. -/
structure FieldSpec (α : Type) where
  field : FieldShape Shape
  put : Toml.Node → α → α

/-- The reader and the schema declare the field alike. -/
structure SameDeclaration {α : Type} (field : Field α) (declared : FieldShape Shape) :
    Prop where
  name : field.name = declared.name
  required : field.required = declared.required

/-- The field of a reader does what the schema says. -/
structure FieldReads {α : Type} (field : Field α) (spec : FieldSpec α) : Prop extends
    SameDeclaration field spec.field where
  reads : ∀ record, Reads (fun keyLine node => field.read keyLine node record)
    spec.field.shape (fun node => spec.put node record)

/-- Put the value of an entry into a record. -/
def putEntry {α : Type} (specs : List (FieldSpec α)) (record : α)
    (entry : Toml.Key × Toml.Node) : α :=
  match specs.find? (·.field.name == entry.1.name) with
  | some spec => spec.put entry.2 record
  | none => record

theorem FieldReads.string {α : Type} (name : String) (required : Bool) (put : String → α → α) :
    FieldReads (.string name required put)
      ⟨⟨name, required, .text⟩, fun node => put (textAt node)⟩ where
  name := rfl
  required := rfl
  reads record := reads_string.map fun text => put text record

theorem FieldReads.list {α β : Type} {item : Nat → Toml.Node → Except Misfit β}
    {shape : Shape} {value : Toml.Node → β} (hitem : Reads item shape value) (name : String)
    (put : List β → α → α) :
    FieldReads (.list name item put)
      ⟨⟨name, false, .list shape⟩, fun node => put ((itemsAt node).map value)⟩ where
  name := rfl
  required := rfl
  reads record := hitem.list.map fun values => put values record

/-- Without repeated names an item is found under its own name. -/
theorem find?_name_of_mem {α : Type} {nameOf : α → String} {items : List α}
    (hnames : (items.map nameOf).Nodup) {item : α} (hmem : item ∈ items) :
    items.find? (nameOf · == nameOf item) = some item := by
  induction items with
  | nil => cases hmem
  | cons first rest ih =>
      rw [List.map_cons, List.nodup_cons] at hnames
      rw [List.find?_cons]
      rcases List.mem_cons.1 hmem with rfl | hrest
      · rw [beq_self_eq_true]
      · have hother : (nameOf first == nameOf item) = false := by
          rw [beq_eq_false_iff_ne]
          intro hsame
          exact hnames.1 (hsame ▸ List.mem_map_of_mem hrest)
        rw [hother]
        exact ih hnames.2 hrest

/-- The value of an entry that is not conforming, or its key. -/
def EntryOffence (fields : List (FieldShape Shape)) (entry : Toml.Key × Toml.Node)
    (misfit : Misfit) : Prop :=
  (fieldNamed? fields entry.1.name = none ∧
    misfit = ⟨entry.1.line, .unknownField entry.1.name (fields.map (·.name))⟩) ∨
  ∃ field, fieldNamed? fields entry.1.name = some field ∧
    Offence field.shape entry.1.line entry.2 misfit

section Entries

variable {α : Type} {shape : Record α} {specs : List (FieldSpec α)}

theorem fieldNamed?_map (specs : List (FieldSpec α)) (name : String) :
    fieldNamed? (specs.map (·.field)) name =
      (specs.find? (·.field.name == name)).map (·.field) := by
  unfold fieldNamed?
  rw [List.find?_map]
  rfl

variable (hfields : List.Forall₂ FieldReads shape.fields specs)
include hfields

theorem names_eq : shape.fields.map (·.name) = (specs.map (·.field)).map (·.name) := by
  rw [List.map_map, ← List.forall₂_eq_eq_eq, List.forall₂_map_left_iff,
    List.forall₂_map_right_iff]
  exact hfields.imp fun _ _ hfield => hfield.name

theorem find?_name (name : String) :
    Option.Rel FieldReads (shape.fields.find? (·.name == name))
      (specs.find? (·.field.name == name)) := by
  refine find?_of_forall₂ (fun field spec hfield => ?_) hfields
  rw [hfield.name]

/-- The reader has a field under every name that the schema declares. -/
theorem exists_field_of_declared {name : String} {declared : FieldShape Shape}
    (hnamed : fieldNamed? (specs.map (·.field)) name = some declared) :
    ∃ field spec, shape.fields.find? (·.name == name) = some field ∧
      specs.find? (·.field.name == name) = some spec ∧ spec.field = declared ∧
      FieldReads field spec := by
  rw [fieldNamed?_map, Option.map_eq_some_iff] at hnamed
  obtain ⟨spec, hspec, hfield⟩ := hnamed
  have hfound := find?_name hfields name
  rw [hspec] at hfound
  obtain ⟨field, hread, hreads⟩ := eq_some_of_optionRel hfound
  exact ⟨field, spec, hread, hspec, hfield, hreads⟩

/-- The reader has no other fields. -/
theorem no_field_of_undeclared {name : String}
    (hnamed : fieldNamed? (specs.map (·.field)) name = none) :
    shape.fields.find? (·.name == name) = none := by
  rw [fieldNamed?_map, Option.map_eq_none_iff] at hnamed
  have hfound := find?_name hfields name
  rw [hnamed] at hfound
  exact eq_none_of_optionRel hfound

/-- An entry that conforms is put into the record. -/
theorem readEntries_cons_of_conforms {entry : Toml.Key × Toml.Node}
    (hentry : EntryConforms (specs.map (·.field)) entry) (record : α) (rest : Toml.Entries) :
    shape.readEntries record (entry :: rest) =
      shape.readEntries (putEntry specs record entry) rest := by
  obtain ⟨key, node⟩ := entry
  obtain ⟨declared, hnamed, hconforms⟩ := hentry
  obtain ⟨field, spec, hread, hspec, rfl, hreads⟩ := exists_field_of_declared hfields hnamed
  have hput : putEntry specs record (key, node) = spec.put node record := by
    unfold putEntry
    dsimp only at hspec ⊢
    rw [hspec]
  rw [Record.readEntries, hread, hput]
  dsimp only
  rw [(hreads.reads record).accepts key.line node hconforms]
  rfl

/-- An entry that does not conform ends the reading. -/
theorem readEntries_cons_of_offence {entry : Toml.Key × Toml.Node} {misfit : Misfit}
    (hentry : EntryOffence (specs.map (·.field)) entry misfit) (record : α)
    (rest : Toml.Entries) :
    shape.readEntries record (entry :: rest) = .error misfit := by
  obtain ⟨key, node⟩ := entry
  rw [Record.readEntries]
  -- Either the reader knows no such field, or the field refuses its value.
  rcases hentry with ⟨hnone, rfl⟩ | ⟨declared, hnamed, hoffence⟩
  · rw [no_field_of_undeclared hfields hnone, names_eq hfields]
  · obtain ⟨field, spec, hread, -, rfl, hreads⟩ := exists_field_of_declared hfields hnamed
    rw [hread]
    dsimp only
    rw [(hreads.reads record).refuses key.line node misfit hoffence]
    rfl

theorem readEntries_of_conforms {entries : Toml.Entries}
    (hentries : ∀ entry ∈ entries, EntryConforms (specs.map (·.field)) entry) (record : α) :
    shape.readEntries record entries = .ok (entries.foldl (putEntry specs) record) := by
  induction entries generalizing record with
  | nil => rfl
  | cons entry rest ih =>
      obtain ⟨hentry, hrest⟩ := List.forall_mem_cons.1 hentries
      rw [readEntries_cons_of_conforms hfields hentry, ih hrest, List.foldl_cons]

theorem readEntries_of_offence {before after : Toml.Entries} {entry : Toml.Key × Toml.Node}
    {misfit : Misfit} (hbefore : ∀ earlier ∈ before, EntryConforms (specs.map (·.field)) earlier)
    (hentry : EntryOffence (specs.map (·.field)) entry misfit) (record : α) :
    shape.readEntries record (before ++ entry :: after) = .error misfit := by
  induction before generalizing record with
  | nil => exact readEntries_cons_of_offence hfields hentry record after
  | cons first before ih =>
      obtain ⟨hfirst, hrest⟩ := List.forall_mem_cons.1 hbefore
      rw [List.cons_append, readEntries_cons_of_conforms hfields hfirst, ih hrest]

/-- A declared field decides about every value. -/
theorem field_decides {field : FieldShape Shape} (hmem : field ∈ specs.map (·.field))
    (keyLine : Nat) (node : Toml.Node) :
    Conforms field.shape node ∨ ∃ misfit, Offence field.shape keyLine node misfit := by
  obtain ⟨spec, hspec, rfl⟩ := List.mem_map.1 hmem
  obtain ⟨field, -, hreads⟩ := exists_mem_of_forall₂_right hfields hspec
  exact (hreads.reads shape.default).decides keyLine node

theorem entry_decides (entry : Toml.Key × Toml.Node) :
    EntryConforms (specs.map (·.field)) entry ∨
      ∃ misfit, EntryOffence (specs.map (·.field)) entry misfit := by
  cases hnamed : fieldNamed? (specs.map (·.field)) entry.1.name with
  | none => exact .inr ⟨_, .inl ⟨hnamed, rfl⟩⟩
  | some field =>
      have hmem : field ∈ specs.map (·.field) := List.mem_of_find?_eq_some hnamed
      rcases field_decides hfields hmem entry.1.line entry.2 with
        hconforms | ⟨misfit, hoffence⟩
      · exact .inl ⟨field, hnamed, hconforms⟩
      · exact .inr ⟨misfit, .inr ⟨field, hnamed, hoffence⟩⟩

theorem forall₂_sameDeclaration :
    List.Forall₂ SameDeclaration shape.fields (specs.map (·.field)) := by
  rw [List.forall₂_map_right_iff]
  exact hfields.imp fun _ _ hfield => hfield.toSameDeclaration

end Entries

section Missing

variable {α : Type}

/-- No entry gives the field, and it has no default. -/
def isMissing (entries : Toml.Entries) (field : FieldShape Shape) : Bool :=
  field.required && !entries.any fun entry => entry.1.name == field.name

theorem isMissing_eq_true_iff {entries : Toml.Entries} {field : FieldShape Shape} :
    isMissing entries field = true ↔
      field.required = true ∧ ∀ entry ∈ entries, entry.1.name ≠ field.name := by
  unfold isMissing
  simp

theorem isMissing_eq_false_iff {entries : Toml.Entries} {field : FieldShape Shape} :
    isMissing entries field = false ↔
      (field.required = true → ∃ entry ∈ entries, entry.1.name = field.name) := by
  rw [← Bool.not_eq_true, isMissing_eq_true_iff]
  simp only [not_and, not_forall, ne_eq, not_not, exists_prop]

/-- A table conforms when each entry does and nothing is missing. -/
theorem conforms_table_iff {name : String} {fields : List (FieldShape Shape)}
    {line : Option Nat} {form : Toml.TableForm} {entries : Toml.Entries} :
    Conforms (.record name fields) (.table line form entries) ↔
      (∀ entry ∈ entries, EntryConforms fields entry) ∧
        fields.find? (isMissing entries) = none := by
  have hgiven : fields.find? (isMissing entries) = none ↔ ∀ field ∈ fields,
      field.required = true → ∃ entry ∈ entries, entry.1.name = field.name := by
    rw [List.find?_eq_none]
    simp only [Bool.not_eq_true, isMissing_eq_false_iff]
  rw [hgiven]
  constructor
  · intro hconforms
    cases hconforms with
    | table hkeys hvalues hrequired =>
        refine ⟨fun entry hmem => ?_, hrequired⟩
        obtain ⟨field, hnamed⟩ := hkeys entry hmem
        exact ⟨field, hnamed, hvalues entry hmem field hnamed⟩
  · rintro ⟨hentries, hrequired⟩
    refine .table (fun entry hmem => ?_) (fun entry hmem field hnamed => ?_) hrequired
    · obtain ⟨field, hnamed, -⟩ := hentries entry hmem
      exact ⟨field, hnamed⟩
    · obtain ⟨other, hother, hconforms⟩ := hentries entry hmem
      rw [hnamed] at hother
      cases hother
      exact hconforms

theorem missing?_rel {shape : Record α} {fields : List (FieldShape Shape)}
    (hfields : List.Forall₂ SameDeclaration shape.fields fields) (entries : Toml.Entries) :
    Option.Rel SameDeclaration (shape.missing? entries) (fields.find? (isMissing entries)) := by
  unfold Record.missing? isMissing
  refine find?_of_forall₂ (fun field declared hdeclared => ?_) hfields
  rw [hdeclared.name, hdeclared.required]

theorem firstRequired?_eq_none {fields : List (Field α)} {behind : List (FieldShape Shape)}
    (hbehind : List.Forall₂ SameDeclaration fields behind)
    (hoptional : ∀ field ∈ behind, field.required = false) (index : Nat) :
    Record.firstRequired? index fields = none := by
  induction hbehind generalizing index with
  | nil => rfl
  | cons hpair _ ih =>
      obtain ⟨hfirst, hrest⟩ := List.forall_mem_cons.1 hoptional
      rw [Record.firstRequired?, hpair.required, hfirst]
      exact ih hrest (index + 1)

theorem firstRequired?_eq_some {fields : List (Field α)}
    {before after : List (FieldShape Shape)} {field : FieldShape Shape}
    (hbehind : List.Forall₂ SameDeclaration fields (before ++ field :: after))
    (hbefore : ∀ earlier ∈ before, earlier.required = false) (hrequired : field.required = true)
    (index : Nat) :
    Record.firstRequired? index fields = some (index + before.length) := by
  induction before generalizing fields index with
  | nil =>
      rw [List.nil_append, List.forall₂_cons_right_iff] at hbehind
      obtain ⟨first, rest, hpair, -, rfl⟩ := hbehind
      rw [Record.firstRequired?, hpair.required, hrequired]
      rfl
  | cons earlier before ih =>
      rw [List.cons_append, List.forall₂_cons_right_iff] at hbehind
      obtain ⟨first, rest, hpair, hrest, rfl⟩ := hbehind
      obtain ⟨hfirst, hothers⟩ := List.forall_mem_cons.1 hbefore
      rw [Record.firstRequired?, hpair.required, hfirst, List.length_cons]
      rw [if_neg Bool.false_ne_true, ih hrest hothers (index + 1)]
      congr 1
      omega

end Missing

section Records

variable {α : Type} {shape : Record α} {specs : List (FieldSpec α)}

/-- A record that is written as a list is read like the table that gives its items the
names of the fields. -/
theorem readFields_eq_readEntries {fields : List (Field α)}
    (hfound : ∀ field ∈ fields, shape.fields.find? (·.name == field.name) = some field)
    (line : Nat) (items : List Toml.Node) (record : α) :
    Record.readFields line fields record items =
      shape.readEntries record (namedItems (fields.map (·.name)) line items) := by
  induction fields generalizing items record with
  | nil => rfl
  | cons field fields ih =>
      obtain ⟨hfirst, hrest⟩ := List.forall_mem_cons.1 hfound
      cases items with
      | nil => rfl
      | cons node items =>
          -- The name at the front leads the reader of tables to the field at the front.
          rw [Record.readFields, List.map_cons, namedItems_cons_cons, Record.readEntries, hfirst]
          dsimp only
          cases field.read line node record with
          | error misfit => rfl
          | ok put => exact ih hrest items put

variable (hfields : List.Forall₂ FieldReads shape.fields specs)
include hfields

theorem read_table_of_conforms {line : Option Nat} {form : Toml.TableForm}
    {entries : Toml.Entries}
    (hentries : ∀ entry ∈ entries, EntryConforms (specs.map (·.field)) entry)
    (hgiven : (specs.map (·.field)).find? (isMissing entries) = none) (keyLine : Nat) :
    shape.read keyLine (.table line form entries) =
      .ok (entries.foldl (putEntry specs) shape.default) := by
  have hmissing := missing?_rel (forall₂_sameDeclaration hfields) entries
  rw [hgiven] at hmissing
  have hnone : shape.missing? entries = none := eq_none_of_optionRel hmissing
  rw [Record.read, readEntries_of_conforms hfields hentries]
  simp only [hnone]
  rfl

theorem read_table_of_missing {line : Option Nat} {form : Toml.TableForm}
    {entries : Toml.Entries} {field : FieldShape Shape}
    (hentries : ∀ entry ∈ entries, EntryConforms (specs.map (·.field)) entry)
    (hgiven : (specs.map (·.field)).find? (isMissing entries) = some field) (keyLine : Nat) :
    shape.read keyLine (.table line form entries) =
      .error ⟨line.getD keyLine, .missingField field.name⟩ := by
  have hmissing := missing?_rel (forall₂_sameDeclaration hfields) entries
  rw [hgiven] at hmissing
  obtain ⟨found, hfound, hsame⟩ := eq_some_of_optionRel hmissing
  rw [Record.read, readEntries_of_conforms hfields hentries, ← hsame.name]
  simp only [hfound]
  rfl

theorem read_table_of_offence {line : Option Nat} {form : Toml.TableForm}
    {before after : Toml.Entries} {entry : Toml.Key × Toml.Node} {misfit : Misfit}
    (hbefore : ∀ earlier ∈ before, EntryConforms (specs.map (·.field)) earlier)
    (hentry : EntryOffence (specs.map (·.field)) entry misfit) (keyLine : Nat) :
    shape.read keyLine (.table line form (before ++ entry :: after)) = .error misfit := by
  rw [Record.read, readEntries_of_offence hfields hbefore hentry]
  rfl

/-- A table conforms to the record or has a first offence. -/
theorem table_decides (name : String) (keyLine : Nat) (line : Option Nat)
    (form : Toml.TableForm) (entries : Toml.Entries) :
    Conforms (.record name (specs.map (·.field))) (.table line form entries) ∨
      ∃ misfit, Offence (.record name (specs.map (·.field))) keyLine
        (.table line form entries) misfit := by
  rcases all_or_first fun entry (_ : entry ∈ entries) => entry_decides hfields entry with
    hentries | ⟨before, entry, after, misfit, rfl, hbefore, hentry⟩
  · -- No entry is at fault, so what can be wrong is a field that none of them gives.
    cases hmissing : (specs.map (·.field)).find? (isMissing entries) with
    | none => exact .inl (conforms_table_iff.2 ⟨hentries, hmissing⟩)
    | some field =>
        right
        obtain ⟨hfield, before, after, hsplit, hbefore⟩ :=
          List.find?_eq_some_iff_append.1 hmissing
        obtain ⟨hrequired, habsent⟩ := isMissing_eq_true_iff.1 hfield
        refine ⟨_, .missingField hentries hsplit ?_ hrequired habsent⟩
        intro earlier hmem
        exact isMissing_eq_false_iff.1 (by simpa using hbefore earlier hmem)
  · right
    obtain ⟨key, node⟩ := entry
    rcases hentry with ⟨hnone, rfl⟩ | ⟨field, hnamed, hoffence⟩
    · exact ⟨_, .unknownField hbefore hnone⟩
    · exact ⟨misfit, .entry hbefore hnamed hoffence⟩

variable (hnames : ((specs.map (·.field)).map (·.name)).Nodup)
include hnames

theorem readFields_eq (line : Nat) (items : List Toml.Node) (record : α) :
    Record.readFields line shape.fields record items =
      shape.readEntries record
        (((specs.map (·.field)).zip items).map fun pair => (⟨pair.1.name, line⟩, pair.2)) := by
  have hfound : ∀ field ∈ shape.fields,
      shape.fields.find? (·.name == field.name) = some field := by
    intro field hmem
    refine find?_name_of_mem ?_ hmem
    rw [names_eq hfields]
    exact hnames
  rw [readFields_eq_readEntries hfound, names_eq hfields, namedItems_map_name]

omit hfields in
/-- The name of a field leads back to the field. -/
theorem fieldNamed?_of_mem_zip {items : List Toml.Node} {pair : FieldShape Shape × Toml.Node}
    (hmem : pair ∈ (specs.map (·.field)).zip items) :
    fieldNamed? (specs.map (·.field)) pair.1.name = some pair.1 :=
  find?_name_of_mem hnames (List.of_mem_zip hmem).1

theorem readFields_of_conforms {line : Nat} {items : List Toml.Node}
    (hvalues : ∀ pair ∈ (specs.map (·.field)).zip items, Conforms pair.1.shape pair.2)
    (record : α) :
    Record.readFields line shape.fields record items =
      .ok ((namedItems ((specs.map (·.field)).map (·.name)) line items).foldl
        (putEntry specs) record) := by
  rw [readFields_eq hfields hnames, namedItems_map_name]
  apply readEntries_of_conforms hfields
  intro entry hmem
  obtain ⟨pair, hpair, rfl⟩ := List.mem_map.1 hmem
  exact ⟨pair.1, fieldNamed?_of_mem_zip hnames hpair, hvalues pair hpair⟩

theorem readFields_of_offence {line : Nat} {items : List Toml.Node}
    {before after : List (FieldShape Shape × Toml.Node)} {field : FieldShape Shape}
    {node : Toml.Node} {misfit : Misfit}
    (hitems : (specs.map (·.field)).zip items = before ++ (field, node) :: after)
    (hbefore : ∀ earlier ∈ before, Conforms earlier.1.shape earlier.2)
    (hnode : Offence field.shape line node misfit) (record : α) :
    Record.readFields line shape.fields record items = .error misfit := by
  -- The items are read as entries of a table, whose names lead back to the fields.
  have hnamed : ∀ pair ∈ before ++ (field, node) :: after,
      fieldNamed? (specs.map (·.field)) pair.1.name = some pair.1 := by
    rw [← hitems]
    exact fun pair => fieldNamed?_of_mem_zip hnames
  rw [readFields_eq hfields hnames, hitems, List.map_append, List.map_cons]
  apply readEntries_of_offence hfields
  · intro earlier hmem
    obtain ⟨pair, hpair, rfl⟩ := List.mem_map.1 hmem
    exact ⟨pair.1, hnamed pair (List.mem_append_left _ hpair), hbefore pair hpair⟩
  · exact .inr ⟨field, hnamed (field, node) (by simp), hnode⟩

theorem read_list_of_conforms {line : Nat} {form : Toml.ListForm} {items : List Toml.Node}
    (hvalues : ∀ pair ∈ (specs.map (·.field)).zip items, Conforms pair.1.shape pair.2)
    (hrequired : ∀ field ∈ (specs.map (·.field)).drop items.length, field.required = false)
    (keyLine : Nat) :
    shape.read keyLine (.list line form items) =
      .ok ((namedItems ((specs.map (·.field)).map (·.name)) line items).foldl
        (putEntry specs) shape.default) := by
  have hdeclared := List.forall₂_drop items.length (forall₂_sameDeclaration hfields)
  have hbehind := firstRequired?_eq_none hdeclared hrequired items.length
  rw [Record.read, readFields_of_conforms hfields hnames hvalues]
  simp only [hbehind]
  rfl

theorem read_list_of_tooShort {line : Nat} {form : Toml.ListForm} {items : List Toml.Node}
    {before after : List (FieldShape Shape)} {field : FieldShape Shape}
    (hvalues : ∀ pair ∈ (specs.map (·.field)).zip items, Conforms pair.1.shape pair.2)
    (hsplit : (specs.map (·.field)).drop items.length = before ++ field :: after)
    (hbefore : ∀ earlier ∈ before, earlier.required = false) (hrequired : field.required = true)
    (keyLine : Nat) :
    shape.read keyLine (.list line form items) =
      .error ⟨line, .invalidLength (items.length + before.length) shape.listDescription⟩ := by
  have hdeclared := List.forall₂_drop items.length (forall₂_sameDeclaration hfields)
  rw [hsplit] at hdeclared
  have hbehind := firstRequired?_eq_some hdeclared hbefore hrequired items.length
  rw [Record.read, readFields_of_conforms hfields hnames hvalues]
  simp only [hbehind]
  rfl

theorem read_list_of_offence {line : Nat} {form : Toml.ListForm} {items : List Toml.Node}
    {before after : List (FieldShape Shape × Toml.Node)} {field : FieldShape Shape}
    {node : Toml.Node} {misfit : Misfit}
    (hitems : (specs.map (·.field)).zip items = before ++ (field, node) :: after)
    (hbefore : ∀ earlier ∈ before, Conforms earlier.1.shape earlier.2)
    (hnode : Offence field.shape line node misfit) (keyLine : Nat) :
    shape.read keyLine (.list line form items) = .error misfit := by
  rw [Record.read, readFields_of_offence hfields hnames hitems hbefore hnode]
  rfl

omit hnames in
/-- A list conforms to the record or has a first offence. -/
theorem fields_decide (name : String) (keyLine line : Nat) (form : Toml.ListForm)
    (items : List Toml.Node) :
    Conforms (.record name (specs.map (·.field))) (.list line form items) ∨
      ∃ misfit, Offence (.record name (specs.map (·.field))) keyLine
        (.list line form items) misfit := by
  have hdecides : ∀ pair ∈ (specs.map (·.field)).zip items,
      Conforms pair.1.shape pair.2 ∨ ∃ misfit, Offence pair.1.shape line pair.2 misfit :=
    fun pair hpair => field_decides hfields (List.of_mem_zip hpair).1 line pair.2
  rcases all_or_first hdecides with
    hvalues | ⟨before, ⟨field, node⟩, after, misfit, hitems, hbefore, hnode⟩
  · -- No item is at fault, so what can be wrong is a field behind the last one.
    cases hbehind : ((specs.map (·.field)).drop items.length).find? (·.required) with
    | none =>
        left
        refine .fields hvalues fun field hmem => ?_
        exact eq_false_of_ne_true (List.find?_eq_none.1 hbehind field hmem)
    | some field =>
        right
        obtain ⟨hrequired, before, after, hsplit, hbefore⟩ :=
          List.find?_eq_some_iff_append.1 hbehind
        refine ⟨_, .tooShort hvalues hsplit (fun earlier hmem => ?_) hrequired⟩
        simpa using hbefore earlier hmem
  · exact .inr ⟨misfit, .place hitems hbefore hnode⟩

/-- A reader of records accepts what the schema says when its fields do. -/
theorem Reads.record :
    Reads shape.read (.record shape.name (specs.map (·.field))) (fun node =>
      (recordEntries ((specs.map (·.field)).map (·.name)) node).foldl (putEntry specs)
        shape.default) where
  accepts keyLine node hconforms := by
    cases node with
    | table line form entries =>
        obtain ⟨hentries, hgiven⟩ := conforms_table_iff.1 hconforms
        exact read_table_of_conforms hfields hentries hgiven keyLine
    | list line form items =>
        cases hconforms with
        | fields hvalues hrequired =>
            exact read_list_of_conforms hfields hnames hvalues hrequired keyLine
    | scalar line value => cases hconforms
  refuses keyLine node misfit hoffence := by
    cases hoffence with
    | unknownField hbefore hkey =>
        exact read_table_of_offence hfields hbefore (.inl ⟨hkey, rfl⟩) keyLine
    | entry hbefore hfield hnode =>
        exact read_table_of_offence hfields hbefore (.inr ⟨_, hfield, hnode⟩) keyLine
    | @missingField _ _ before after field _ line form entries hentries hsplit hbefore hrequired
        habsent =>
        have hgiven : (specs.map (·.field)).find? (isMissing entries) = some field := by
          rw [List.find?_eq_some_iff_append]
          refine ⟨isMissing_eq_true_iff.2 ⟨hrequired, habsent⟩, before, after, hsplit, ?_⟩
          intro earlier hmem
          rw [isMissing_eq_false_iff.2 (hbefore earlier hmem)]
          rfl
        exact read_table_of_missing hfields hentries hgiven keyLine
    | place hitems hbefore hnode =>
        exact read_list_of_offence hfields hnames hitems hbefore hnode keyLine
    | tooShort hvalues hsplit hbefore hrequired =>
        rw [← (forall₂_sameDeclaration hfields).length_eq]
        exact read_list_of_tooShort hfields hnames hvalues hsplit hbefore hrequired keyLine
    | dateTime =>
        rw [Record.read, names_eq hfields]
    | @scalar _ _ _ line value hkind =>
        cases value with
        | dateTime source => exact absurd rfl (hkind source)
        | _ => rfl
  decides keyLine node := by
    cases node with
    | table line form entries => exact table_decides hfields shape.name keyLine line form entries
    | list line form items => exact fields_decide hfields shape.name keyLine line form items
    | scalar line value =>
        right
        cases value with
        | dateTime source => exact ⟨_, .dateTime⟩
        | _ => exact ⟨_, .scalar (by simp)⟩

end Records

end Config
end InsertRouting
