import InsertRouting.Toml.Strings

namespace InsertRouting
namespace Toml

/-!
# Writing documents

A document is written as repeated headers, and keys with texts or lists of texts,
each on a line of its own.
-/

/-- The header of the next table of a collected list. -/
def writeItemHeader (path : String) : List Char :=
  ['[', '['] ++ path.toList ++ [']', ']', '\n']

/-- A key that needs no quotes, and its value. -/
def writePair (key : String) (value : List Char) : List Char :=
  key.toList ++ [' ', '=', ' '] ++ value ++ ['\n']

/-- A key with a text. -/
def writeText (key : String) (text : String) : List Char :=
  writePair key (writeBasic text)

/-- A key with a text, if there is one. -/
def writeText? (key : String) (text : Option String) : List Char :=
  match text with
  | some text => writeText key text
  | none => []

/-- The texts of a list behind the first one. -/
def writeMoreTexts : List String → List Char
  | [] => [']']
  | text :: rest => [',', ' '] ++ writeBasic text ++ writeMoreTexts rest

/-- A list of texts on one line. -/
def writeTexts : List String → List Char
  | [] => ['[', ']']
  | text :: rest => '[' :: (writeBasic text ++ writeMoreTexts rest)

end Toml
end InsertRouting
