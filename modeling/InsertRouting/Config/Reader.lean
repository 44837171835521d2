import InsertRouting.Config.Basic
import InsertRouting.Config.Error
import InsertRouting.Number.Double.Shortest
import InsertRouting.Text.Escaped
import InsertRouting.Toml.Node

namespace InsertRouting
namespace Config

/-!
# Reading a configuration from a document

The parts of a configuration are records: tables in which every key is a field,
or lists of the fields in the order of their declaration.  A field may be
missing if it has a default.  In a list only fields at the end can be missing, and
whatever follows the last field is ignored.  Fields are read in the order of the
document, and the first difference decides.
-/

/-- A difference from the shape of a configuration and its line. -/
structure Misfit where
  line : Nat
  error : ShapeError
  deriving DecidableEq, Repr

/-- A float with a decimal point, if it is finite. -/
def pointedText (number : Number.Double) : String :=
  let text := number.text
  if number.isNaN || number.isInfinite || text.toList.contains '.' then text else text ++ ".0"

/-- The words for a value that stands in the wrong place. -/
def description : Toml.Node → String
  | .scalar _ (.string text) => "string " ++ Text.escaped text
  | .scalar _ (.integer number) =>
      "integer " ++ ShapeError.backquoted (toString number.toInt)
  | .scalar _ (.float number) =>
      "floating point " ++ ShapeError.backquoted (pointedText number)
  | .scalar _ (.boolean true) => "boolean " ++ ShapeError.backquoted "true"
  | .scalar _ (.boolean false) => "boolean " ++ ShapeError.backquoted "false"
  | .scalar _ (.dateTime _) => "map"
  | .list _ _ _ => "sequence"
  | .table _ _ _ => "map"

/-- Refuse a value that stands in the wrong place.  A value that has no line of
its own is refused at the line of its key. -/
def misplaced {α : Type} (keyLine : Nat) (node : Toml.Node) (expected : String) :
    Except Misfit α :=
  .error ⟨node.line?.getD keyLine, .invalidType (description node) expected⟩

/-- Read a text. -/
def readString (keyLine : Nat) : Toml.Node → Except Misfit String
  | .scalar _ (.string text) => .ok text
  | node => misplaced keyLine node "a string"

/-- Read the values of a list, from left to right. -/
def readItems {α : Type} (item : Nat → Toml.Node → Except Misfit α) (line : Nat) :
    List Toml.Node → Except Misfit (List α)
  | [] => .ok []
  | node :: rest => do
      let first ← item line node
      let others ← readItems item line rest
      pure (first :: others)

/-- Read a list. -/
def readList {α : Type} (item : Nat → Toml.Node → Except Misfit α) (keyLine : Nat) :
    Toml.Node → Except Misfit (List α)
  | .list line _ nodes => readItems item line nodes
  | node => misplaced keyLine node "a sequence"

/-- A field of a record: its name, whether it may be missing, and how its value is
put into the record. -/
structure Field (α : Type) where
  name : String
  required : Bool
  read : Nat → Toml.Node → α → Except Misfit α

namespace Field

/-- A field that holds a text. -/
def string {α : Type} (name : String) (required : Bool) (put : String → α → α) : Field α :=
  ⟨name, required, fun line node record => (readString line node).map (put · record)⟩

/-- A field that holds a list and may be missing. -/
def list {α β : Type} (name : String) (item : Nat → Toml.Node → Except Misfit β)
    (put : List β → α → α) : Field α :=
  ⟨name, false, fun line node record => (readList item line node).map (put · record)⟩

end Field

/-- The name of a record and its fields in the order of their declaration. -/
structure Record (α : Type) where
  name : String
  fields : List (Field α)
  /-- The record with every default. -/
  default : α

namespace Record

variable {α : Type}

/-- Put the values of a table into a record, in the order of the document. -/
def readEntries (shape : Record α) : α → Toml.Entries → Except Misfit α
  | record, [] => .ok record
  | record, (key, node) :: rest =>
      match shape.fields.find? (·.name == key.name) with
      | some field => do
          let record ← field.read key.line node record
          shape.readEntries record rest
      | none => .error ⟨key.line, .unknownField key.name (shape.fields.map (·.name))⟩

/-- Put the values of a list into a record, field by field. -/
def readFields (line : Nat) : List (Field α) → α → List Toml.Node → Except Misfit α
  | field :: fields, record, node :: rest => do
      let record ← field.read line node record
      readFields line fields record rest
  | _, record, _ => .ok record

/-- The first field without a default that no key gives a value. -/
def missing? (shape : Record α) (entries : Toml.Entries) : Option (Field α) :=
  shape.fields.find? fun field =>
    field.required && !entries.any fun (key, _) => key.name == field.name

/-- The first place at or behind the given one whose field has no default. -/
def firstRequired? (index : Nat) : List (Field α) → Option Nat
  | [] => none
  | field :: rest => if field.required then some index else firstRequired? (index + 1) rest

/-- The words for a record that is written as a list. -/
def listDescription (shape : Record α) : String :=
  "struct " ++ shape.name ++ " with " ++ toString shape.fields.length ++ " elements"

/-- The key that stands for a date when a table is called for. -/
def dateTimeKey : String := "$__toml_private_datetime"

/-- Read a record. -/
def read (shape : Record α) (keyLine : Nat) : Toml.Node → Except Misfit α
  | .table line _ entries => do
      let record ← shape.readEntries shape.default entries
      match shape.missing? entries with
      | some field => .error ⟨line.getD keyLine, .missingField field.name⟩
      | none => .ok record
  | .list line _ nodes => do
      let record ← readFields line shape.fields shape.default nodes
      match firstRequired? nodes.length (shape.fields.drop nodes.length) with
      | some index => .error ⟨line, .invalidLength index shape.listDescription⟩
      | none => .ok record
  | .scalar line (.dateTime _) =>
      .error ⟨line, .unknownField dateTimeKey (shape.fields.map (·.name))⟩
  | node => misplaced keyLine node ("struct " ++ shape.name)

end Record

/-- The shape of a sharded table. -/
def shardedTableRecord : Record ShardedTable where
  name := "ShardedTable"
  fields :=
    [.string "name" false fun text entry => { entry with name := some text },
     .string "column" false fun text entry => { entry with column := text },
     .string "generate_key_column" false fun text entry =>
       { entry with generateKeyColumn := some text }]
  default := {}

/-- The shape of an encrypted column. -/
def encryptedColumnRecord : Record EncryptedColumn where
  name := "EncryptedColumn"
  fields :=
    [.string "name" true fun text column => { column with name := text },
     .string "cipher_column" true fun text column => { column with cipherColumn := text },
     .string "assisted_query_column" false fun text column =>
       { column with assistedQueryColumn := some text }]
  default := { name := "", cipherColumn := "" }

/-- The shape of an encrypted table. -/
def encryptedTableRecord : Record EncryptedTable where
  name := "EncryptedTable"
  fields :=
    [.string "name" true fun text table => { table with name := text },
     .list "columns" encryptedColumnRecord.read fun columns table =>
       { table with columns := columns }]
  default := { name := "" }

/-- The shape of a table of the catalog. -/
def tableDefinitionRecord : Record TableDefinition where
  name := "TableDefinition"
  fields :=
    [.string "name" true fun text table => { table with name := text },
     .list "columns" readString fun columns table => { table with columns := columns }]
  default := { name := "" }

/-- The shape of a configuration. -/
def configRecord : Record Config where
  name := "Config"
  fields :=
    [.list "sharded_tables" shardedTableRecord.read fun tables config =>
       { config with shardedTables := tables },
     .list "encrypted_tables" encryptedTableRecord.read fun tables config =>
       { config with encryptedTables := tables },
     .list "tables" tableDefinitionRecord.read fun tables config =>
       { config with tables := tables }]
  default := {}

/-- Read the configuration that a document holds. -/
def ofEntries (entries : Toml.Entries) : Except Misfit Config :=
  configRecord.read 1 (.table (some 1) .headed entries)

end Config
end InsertRouting
