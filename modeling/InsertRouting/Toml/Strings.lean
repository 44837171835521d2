import InsertRouting.Toml.Cursor

namespace InsertRouting
namespace Toml

/-!
# Strings

There are four kinds of strings: in double quotes with escapes or in single
quotes without, and each of them on one line or, between triple quotes, on
several.  The readers here start behind the opening quotes and stop behind the
closing ones.  `writeBasic` writes a text in double quotes on one line.
-/

/-- The value of a hexadecimal digit. -/
def hexValue? (c : Char) : Option Nat :=
  if '0' ≤ c ∧ c ≤ '9' then some (c.toNat - '0'.toNat)
  else if 'a' ≤ c ∧ c ≤ 'f' then some (c.toNat - 'a'.toNat + 10)
  else if 'A' ≤ c ∧ c ≤ 'F' then some (c.toNat - 'A'.toNat + 10)
  else none

/-- The number that hexadecimal digits stand for, with what precedes them. -/
def hexNumber? (number : Nat) : List Char → Option Nat
  | [] => some number
  | c :: rest =>
      match hexValue? c with
      | some digit => hexNumber? (16 * number + digit) rest
      | none => none

/-- The character with the code point that hexadecimal digits stand for. -/
def hexChar? (digits : List Char) : Option Char :=
  match hexNumber? 0 digits with
  | some code => if code.isValidChar then some (Char.ofNat code) else none
  | none => none

/-- The character that one letter after a backslash stands for. -/
def simpleEscape? : Char → Option Char
  | 'b' => some '\x08'
  | 't' => some '\t'
  | 'n' => some '\n'
  | 'f' => some '\x0c'
  | 'r' => some '\r'
  | '"' => some '"'
  | '\\' => some '\\'
  | _ => none

/-- The text of a string and the place behind it. -/
abbrev StringResult := Except SyntaxError (List Char × Cursor)

/-- Put characters in front of a text that was read. -/
def StringResult.push (front : List Char) (result : StringResult) : StringResult :=
  match result with
  | .ok (text, cursor) => .ok (front ++ text, cursor)
  | .error error => .error error

/-- Put a character in front if there is one, and refuse the line otherwise. -/
def StringResult.pushOr (line : Nat) (front : Option Char) (result : StringResult) :
    StringResult :=
  match front with
  | some c => result.push [c]
  | none => .error ⟨line⟩

/-- Read a string in double quotes.  A line end behind a backslash has been passed
when it is found to be no escape. -/
def basicString (line : Nat) : List Char → StringResult
  | [] => .error ⟨line⟩
  | '"' :: rest => .ok ([], ⟨line, rest⟩)
  | '\\' :: 'u' :: a :: b :: c :: d :: rest =>
      (basicString line rest).pushOr line (hexChar? [a, b, c, d])
  | '\\' :: 'U' :: a :: b :: c :: d :: e :: f :: g :: h :: rest =>
      (basicString line rest).pushOr line (hexChar? [a, b, c, d, e, f, g, h])
  | '\\' :: c :: rest =>
      (basicString line rest).pushOr (if c = '\n' then line + 1 else line) (simpleEscape? c)
  | c :: rest =>
      if c ≠ '\\' ∧ isPlain c then (basicString line rest).push [c] else .error ⟨line⟩

/-- Read a string in single quotes. -/
def literalString (line : Nat) (text : List Char) : StringResult :=
  let inside (c : Char) : Bool := isPlain c && c != '\''
  match text.dropWhile inside with
  | '\'' :: rest => .ok (text.takeWhile inside, ⟨line, rest⟩)
  | _ => .error ⟨line⟩

/-- The line ends after blanks. -/
def endsLine (text : List Char) : Bool :=
  ((⟨0, text⟩ : Cursor).skipBlanks.nextLine?).isSome

/-- Read what follows three closing quotes: up to two more of them belong to the
string. -/
def closingQuotes (quote : Char) (line : Nat) : List Char → StringResult
  | first :: second :: rest =>
      if first = quote ∧ second = quote then .ok ([quote, quote], ⟨line, rest⟩)
      else if first = quote then .ok ([quote], ⟨line, second :: rest⟩)
      else .ok ([], ⟨line, first :: second :: rest⟩)
  | [first] =>
      if first = quote then .ok ([quote], ⟨line, []⟩) else .ok ([], ⟨line, [first]⟩)
  | [] => .ok ([], ⟨line, []⟩)

/-- Read a string between triple double quotes.  Blanks and line ends behind a
backslash at the end of a line are left out; `skipping` tells that these are being
skipped. -/
def multilineBasicString (line : Nat) (skipping : Bool) : List Char → StringResult
  | [] => .error ⟨line⟩
  | '\n' :: rest =>
      if skipping then multilineBasicString (line + 1) true rest
      else (multilineBasicString (line + 1) false rest).push ['\n']
  | '\r' :: '\n' :: rest =>
      if skipping then multilineBasicString (line + 1) true rest
      else (multilineBasicString (line + 1) false rest).push ['\n']
  | '"' :: '"' :: '"' :: rest => closingQuotes '"' line rest
  | '\\' :: 'u' :: a :: b :: c :: d :: rest =>
      (multilineBasicString line false rest).pushOr line (hexChar? [a, b, c, d])
  | '\\' :: 'U' :: a :: b :: c :: d :: e :: f :: g :: h :: rest =>
      (multilineBasicString line false rest).pushOr line (hexChar? [a, b, c, d, e, f, g, h])
  | '\\' :: c :: rest =>
      if endsLine (c :: rest) then multilineBasicString line true (c :: rest)
      else (multilineBasicString line false rest).pushOr line (simpleEscape? c)
  | c :: rest =>
      if skipping && isBlank c then multilineBasicString line true rest
      else if c ≠ '\\' ∧ isPlain c then (multilineBasicString line false rest).push [c]
      else .error ⟨line⟩

/-- Read a string between triple single quotes. -/
def multilineLiteralString (line : Nat) : List Char → StringResult
  | [] => .error ⟨line⟩
  | '\n' :: rest => (multilineLiteralString (line + 1) rest).push ['\n']
  | '\r' :: '\n' :: rest => (multilineLiteralString (line + 1) rest).push ['\n']
  | '\'' :: '\'' :: '\'' :: rest => closingQuotes '\'' line rest
  | c :: rest =>
      if isPlain c then (multilineLiteralString line rest).push [c] else .error ⟨line⟩

/-- Skip a line end right behind the opening quotes. -/
def skipFirstLineEnd (cursor : Cursor) : Cursor :=
  cursor.nextLine?.getD cursor

/-- Read a string of any kind, if the text starts with one. -/
def string? (cursor : Cursor) : Option StringResult :=
  match cursor.rest with
  | '"' :: '"' :: '"' :: rest =>
      let start := skipFirstLineEnd ⟨cursor.line, rest⟩
      some (multilineBasicString start.line false start.rest)
  | '"' :: rest => some (basicString cursor.line rest)
  | '\'' :: '\'' :: '\'' :: rest =>
      let start := skipFirstLineEnd ⟨cursor.line, rest⟩
      some (multilineLiteralString start.line start.rest)
  | '\'' :: rest => some (literalString cursor.line rest)
  | _ => none

/-- The digit for a number below sixteen. -/
def hexDigit (number : Nat) : Char :=
  Nat.digitChar number

/-- A character inside double quotes: quotes, backslashes and control characters
are escaped. -/
def writeBasicChar (c : Char) : List Char :=
  if c = '"' then ['\\', '"']
  else if c = '\\' then ['\\', '\\']
  else if c.toNat < 0x20 ∨ c.toNat = 0x7f then
    ['\\', 'u', '0', '0', hexDigit (c.toNat / 16), hexDigit (c.toNat % 16)]
  else [c]

/-- A text in double quotes on one line. -/
def writeBasic (text : String) : List Char :=
  '"' :: (text.toList.flatMap writeBasicChar ++ ['"'])

theorem basicString_quote (line : Nat) (rest : List Char) :
    basicString line ('"' :: rest) = .ok ([], ⟨line, rest⟩) := by
  rw [basicString]

theorem basicString_cons {line : Nat} {c : Char} {rest : List Char}
    (quote : c ≠ '"') (backslash : c ≠ '\\') (plain : isPlain c = true) :
    basicString line (c :: rest) = (basicString line rest).push [c] := by
  rw [basicString]
  · simp [backslash, plain]
  all_goals simp_all

/-- The escape of a control character stands for that character. -/
theorem hexChar?_control : ∀ code < 0x80, code < 0x20 ∨ code = 0x7f →
    hexChar? ['0', '0', hexDigit (code / 16), hexDigit (code % 16)] =
      some (Char.ofNat code) := by
  decide +kernel

/-- A written character is read back. -/
theorem basicString_writeBasicChar (line : Nat) (c : Char) (rest : List Char) :
    basicString line (writeBasicChar c ++ rest) = (basicString line rest).push [c] := by
  unfold writeBasicChar
  split
  · subst c
    simp [basicString, simpleEscape?, StringResult.pushOr]
  · split
    · subst c
      simp [basicString, simpleEscape?, StringResult.pushOr]
    · split
      · rename_i control
        have read := hexChar?_control c.toNat (by omega) control
        simp [basicString, StringResult.pushOr, read]
      · apply basicString_cons <;> simp_all [isPlain]

/-- A written text is read back, up to its closing quotes and on its line. -/
theorem basicString_writeBasic (line : Nat) (text rest : List Char) :
    basicString line (text.flatMap writeBasicChar ++ '"' :: rest) =
      .ok (text, ⟨line, rest⟩) := by
  induction text with
  | nil => simp [basicString_quote]
  | cons c text ih => simp [basicString_writeBasicChar, ih, StringResult.push]

end Toml
end InsertRouting
