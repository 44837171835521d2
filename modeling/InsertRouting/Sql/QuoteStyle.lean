namespace InsertRouting

/-!
# Quoting of identifiers

The way an identifier is quoted is read off the first character of its source.
-/

/-- How an identifier is quoted. -/
inductive QuoteStyle
  | unquoted
  | double
  | backtick
  | brackets
  | single
  deriving DecidableEq, Repr

namespace QuoteStyle

/-- The style that a source starting with this character is in. -/
def ofFirst : Char → QuoteStyle
  | '"' => double
  | '\x60' => backtick
  | '[' => brackets
  | '\'' => single
  | _ => unquoted

/-- The style of an identifier as it is written; an empty source is unquoted. -/
def ofSource : List Char → QuoteStyle
  | [] => unquoted
  | first :: _ => ofFirst first

end QuoteStyle

end InsertRouting
