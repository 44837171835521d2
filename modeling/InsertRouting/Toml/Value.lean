import InsertRouting.Toml.Number
import InsertRouting.Toml.Tree

namespace InsertRouting
namespace Toml

/-!
# Keys and values

A key is a sequence of names with dots between them.  A list may run over several
lines and may have a comma behind its last value; a table that is written as a
value stays on its line except inside its values, and has no such comma.  Lists
and tables may be nested in each other up to a limit.
-/

/-- A reader takes something from the front of a document and returns the place
behind it. -/
abbrev Reader (α : Type) := Cursor → Except SyntaxError (α × Cursor)

/-- A path has fewer names than this. -/
def pathLimit : Nat := 80

/-- Lists and tables are nested at most this deep. -/
def nestingLimit : Nat := 79

/-- The character may stand in a name without quotes. -/
def isBare (c : Char) : Bool :=
  c.isAlphanum || c == '_' || c == '-'

/-- The text starts with a name. -/
def startsKey : List Char → Bool
  | c :: _ => isBare c || c == '"' || c == '\''
  | [] => false

/-- Read one name. -/
def name : Reader Key := fun cursor =>
  let named (result : StringResult) : Except SyntaxError (Key × Cursor) :=
    result.map fun (text, rest) => (⟨String.ofList text, cursor.line⟩, rest)
  match cursor.rest with
  | '"' :: rest => named (basicString cursor.line rest)
  | '\'' :: rest => named (literalString cursor.line rest)
  | text =>
      let bare := text.takeWhile isBare
      if bare.isEmpty then cursor.refuse
      else .ok (⟨String.ofList bare, cursor.line⟩, ⟨cursor.line, text.dropWhile isBare⟩)

/-- Read names with dots between them, and the blanks around them.  A dot that no
name follows is left where it is. -/
def names : Nat → Reader (List Key)
  | 0 => fun cursor => cursor.refuse
  | fuel + 1 => fun cursor => do
      let (first, cursor) ← name cursor.skipBlanks
      let cursor := cursor.skipBlanks
      match cursor.rest with
      | '.' :: rest =>
          if startsKey (rest.dropWhile isBlank) then
            let (others, cursor) ← names fuel ⟨cursor.line, rest⟩
            pure (first :: others, cursor)
          else pure ([first], cursor)
      | _ => pure ([first], cursor)

/-- A key: the names in front of the last dot, and the last name. -/
abbrev Path := List Key × Key

/-- Read a key and the blanks around it. -/
def path : Reader Path := fun cursor => do
  let (read, next) ← names cursor.rest.length cursor
  match read.getLast? with
  | some last =>
      if read.length < pathLimit then pure ((read.dropLast, last), next) else cursor.refuse
  | none => cursor.refuse

/-- The text starts with a key that is short enough, or with the quote of a faulty
name. -/
def startsPath (cursor : Cursor) : Bool :=
  startsKey cursor.skipBlanks.rest &&
    match names cursor.rest.length cursor with
    | .ok (read, _) => decide (read.length < pathLimit)
    | .error _ => true

/-- Read a key with its value. -/
def pair (value : Reader Node) : Reader (Path × Node) := fun cursor => do
  let (key, cursor) ← path cursor
  let cursor ← cursor.expect '='
  let (read, cursor) ← value cursor.skipBlanks
  pure ((key, read), cursor)

/-- Read a value that has no parts. -/
def plainValue : Reader Node := fun cursor =>
  match string? cursor with
  | some (.ok (text, next)) => .ok (.scalar cursor.line (.string (String.ofList text)), next)
  | some (.error error) => .error error
  | none =>
      match word? cursor.rest with
      | some (word, rest) => .ok (.scalar cursor.line word, ⟨cursor.line, rest⟩)
      | none => cursor.refuse

/-- Read the values of a list and its closing bracket.  A value that is followed by
an incomplete comment or line end is itself at fault. -/
def items (value : Reader Node) : Nat → Reader (List Node)
  | 0 => fun cursor => cursor.refuse
  | fuel + 1 => fun cursor => do
      let start ← cursor.skipFiller
      match start.rest with
      | ']' :: rest => pure ([], ⟨start.line, rest⟩)
      | _ => do
          let (first, behind) ← value start
          match behind.skipFiller with
          | .error _ => start.refuse
          | .ok next =>
              match next.rest with
              | ',' :: rest => do
                  let (others, cursor) ← items value fuel ⟨next.line, rest⟩
                  pure (first :: others, cursor)
              | ']' :: rest => pure ([first], ⟨next.line, rest⟩)
              | _ => next.refuse

/-- Read pairs with commas between them.  A comma that no key follows is left
where it is. -/
def pairs (value : Reader Node) : Nat → Reader (List (Path × Node))
  | 0 => fun cursor => cursor.refuse
  | fuel + 1 => fun cursor => do
      let (first, cursor) ← pair value cursor
      let cursor := cursor.skipBlanks
      match cursor.rest with
      | ',' :: rest =>
          if startsPath ⟨cursor.line, rest⟩ then
            let (others, cursor) ← pairs value fuel ⟨cursor.line, rest⟩
            pure (first :: others, cursor)
          else pure ([first], cursor)
      | _ => pure ([first], cursor)

/-- The entries of a table that is written as a value. -/
def entriesOfPairs (read : List (Path × Node)) : Option Entries :=
  read.foldlM (fun entries ((path, key), value) => assignValue path key value .inline entries) []

/-- Read the pairs of a table and its closing brace. -/
def inlineTable (value : Reader Node) : Reader Entries := fun cursor => do
  let (read, next) ←
    if startsPath cursor then pairs value cursor.rest.length cursor
    else .ok ([], cursor)
  match entriesOfPairs read with
  | some entries =>
      let next ← next.skipBlanks.expect '\x7d'
      pure (entries, next)
  | none => cursor.refuse

/-- Read a value in which lists and tables are nested at most `depth` deep. -/
def value : Nat → Reader Node
  | 0 => plainValue
  | depth + 1 => fun cursor =>
      match cursor.rest with
      | '[' :: rest => do
          let (read, next) ← items (value depth) rest.length ⟨cursor.line, rest⟩
          pure (.list cursor.line .inline read, next)
      | '\x7b' :: rest => do
          let (entries, next) ← inlineTable (value depth) ⟨cursor.line, rest⟩
          pure (.table (some cursor.line) .inline entries, next)
      | _ => plainValue cursor

end Toml
end InsertRouting
