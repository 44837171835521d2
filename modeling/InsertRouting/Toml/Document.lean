import InsertRouting.Toml.Value

namespace InsertRouting
namespace Toml

/-!
# Documents

A document is read line by line.  A line is empty, a comment, a header, or a key
with its value, which may run over further lines.  The first line that cannot be
read, or that contradicts the lines before it, is the one at fault.
-/

/-- Read a key with its value, and add it to the open table. -/
def pairLine (draft : Draft) : Reader Draft := fun cursor => do
  let (((path, key), read), next) ← pair (value nestingLimit) cursor
  let next ← next.finishLine
  match draft.assign path key read with
  | some draft => pure (draft, next)
  | none => cursor.refuse

/-- Read the rest of a header behind its bracket, and open its table. -/
def headerLine (draft : Draft) (line : Nat) : Reader Draft := fun cursor => do
  let ((front, key), next) ← path cursor
  let next ← next.expect ']'
  let next ← next.finishLine
  match draft.openHeader line front key with
  | some draft => pure (draft, next)
  | none => cursor.refuse

/-- Read the rest of a repeated header behind its brackets, and open its next
table. -/
def itemHeaderLine (draft : Draft) (line : Nat) : Reader Draft := fun cursor => do
  let ((front, key), next) ← path cursor
  let next ← next.expect ']'
  let next ← next.expect ']'
  let next ← next.finishLine
  match draft.openItemHeader line front key with
  | some draft => pure (draft, next)
  | none => cursor.refuse

/-- Read one line that is not the end of the document. -/
def line (draft : Draft) : Reader Draft := fun cursor =>
  match cursor.rest with
  | '[' :: '[' :: rest => itemHeaderLine draft cursor.line ⟨cursor.line, rest⟩
  | '[' :: rest => headerLine draft cursor.line ⟨cursor.line, rest⟩
  | '#' :: _ => cursor.finishLine.map fun next => (draft, next)
  | '\n' :: _ => cursor.finishLine.map fun next => (draft, next)
  | '\r' :: _ => cursor.finishLine.map fun next => (draft, next)
  | _ => pairLine draft cursor

/-- Read the lines up to the end of the document. -/
def lines : Nat → Draft → Cursor → Except SyntaxError Draft
  | 0, _, cursor => cursor.refuse
  | fuel + 1, draft, cursor =>
      let cursor := cursor.skipBlanks
      if cursor.rest.isEmpty then .ok draft
      else do
        let (draft, cursor) ← line draft cursor
        lines fuel draft cursor

/-- The tree of a document. -/
def document (text : List Char) : Except SyntaxError Entries :=
  (lines (text.length + 1) {} (Cursor.ofDocument text)).map (·.root)

/-- How the refusal of a text is put into words.  The format says which texts are refused
and at which line; the words are chosen by whoever reads the text. -/
abbrev Wording := String → String

end Toml
end InsertRouting
