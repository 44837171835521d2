namespace InsertRouting
namespace Toml

/-!
# Positions in a document

A cursor is the rest of a document with the number of the line it starts on.  A
line ends with a line feed or with a carriage return and a line feed.  A document
that is refused is refused at a line.
-/

/-- The rest of a document and the line it starts on, counted from one. -/
structure Cursor where
  line : Nat
  rest : List Char
  deriving DecidableEq, Repr

/-- The document cannot be read further than this line. -/
structure SyntaxError where
  line : Nat
  deriving DecidableEq, Repr

/-- Space and tab. -/
def isBlank (c : Char) : Bool :=
  c == ' ' || c == '\t'

/-- The characters of comments and strings: everything but the control characters
other than the tab. -/
def isPlain (c : Char) : Bool :=
  c == '\t' || (decide (0x20 ≤ c.toNat) && c.toNat != 0x7f)

namespace Cursor

/-- The cursor at the start of a document; a byte order mark is skipped. -/
def ofDocument : List Char → Cursor
  | '\ufeff' :: rest => ⟨1, rest⟩
  | text => ⟨1, text⟩

/-- Refuse the document at the cursor. -/
def refuse {α : Type} (cursor : Cursor) : Except SyntaxError α :=
  .error ⟨cursor.line⟩

/-- Skip spaces and tabs. -/
def skipBlanks (cursor : Cursor) : Cursor :=
  ⟨cursor.line, cursor.rest.dropWhile isBlank⟩

/-- The start of the next line, if the cursor is at the end of one. -/
def nextLine? (cursor : Cursor) : Option Cursor :=
  match cursor.rest with
  | '\n' :: rest => some ⟨cursor.line + 1, rest⟩
  | '\r' :: '\n' :: rest => some ⟨cursor.line + 1, rest⟩
  | _ => none

/-- Skip a comment. -/
def skipComment (cursor : Cursor) : Cursor :=
  match cursor.rest with
  | '#' :: rest => ⟨cursor.line, rest.dropWhile isPlain⟩
  | _ => cursor

/-- Skip blanks and a comment up to the next line or the end of the document. -/
def finishLine (cursor : Cursor) : Except SyntaxError Cursor :=
  let ending := cursor.skipBlanks.skipComment
  match ending.nextLine? with
  | some next => .ok next
  | none => if ending.rest.isEmpty then .ok ending else ending.refuse

/-- Skip blanks, line ends and comments; `comment` tells whether the text starts
inside a comment.  A comment has to reach the end of its line, and a carriage
return has to stand before a line feed. -/
def skipFillerFrom (line : Nat) (comment : Bool) : List Char → Except SyntaxError Cursor
  | [] => if comment then .error ⟨line⟩ else .ok ⟨line, []⟩
  | '\n' :: rest => skipFillerFrom (line + 1) false rest
  | '\r' :: '\n' :: rest => skipFillerFrom (line + 1) false rest
  | c :: rest =>
      if comment then
        if isPlain c then skipFillerFrom line true rest else .error ⟨line⟩
      else if isBlank c then skipFillerFrom line false rest
      else if c = '#' then skipFillerFrom line true rest
      else if c = '\r' then .error ⟨line⟩
      else .ok ⟨line, c :: rest⟩

/-- Skip blanks, line ends and comments, all of which have to be complete. -/
def skipFiller (cursor : Cursor) : Except SyntaxError Cursor :=
  skipFillerFrom cursor.line false cursor.rest

/-- Skip one given character. -/
def expect (wanted : Char) (cursor : Cursor) : Except SyntaxError Cursor :=
  match cursor.rest with
  | c :: rest => if c = wanted then .ok ⟨cursor.line, rest⟩ else cursor.refuse
  | [] => cursor.refuse

theorem skipBlanks_of_not_isBlank {line : Nat} {c : Char} {rest : List Char}
    (visible : isBlank c = false) :
    (⟨line, c :: rest⟩ : Cursor).skipBlanks = ⟨line, c :: rest⟩ := by
  simp [skipBlanks, visible]

theorem expect_self (wanted : Char) (line : Nat) (rest : List Char) :
    expect wanted ⟨line, wanted :: rest⟩ = .ok ⟨line, rest⟩ := by
  simp [expect]

end Cursor

end Toml
end InsertRouting
