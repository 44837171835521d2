namespace InsertRouting
namespace Text

/-!
# Quoted literals

A literal is written between two quotes, and a quote inside it is written twice.
`quoted` writes a literal and `unquoted` reads one.  Reading accepts every text:
a text that is not enclosed in a pair of equal quotes is taken as it stands, and
two neighbouring quotes inside a literal are read as one from left to right.
-/

/-- Write every quote of the text twice. -/
def doubled (quote : Char) : List Char → List Char
  | [] => []
  | c :: rest =>
      if c = quote then quote :: quote :: doubled quote rest
      else c :: doubled quote rest

/-- Read two neighbouring quotes as one, from left to right. -/
def halved (quote : Char) : List Char → List Char
  | [] => []
  | [c] => [c]
  | first :: second :: rest =>
      if first = quote ∧ second = quote then quote :: halved quote rest
      else first :: halved quote (second :: rest)

/-- The text of a literal: the quotes inside are doubled and one is put at
either end. -/
def quoted (quote : Char) (text : List Char) : List Char :=
  quote :: (doubled quote text ++ [quote])

/-- What stands between the quotes, if the text starts with one quote and ends
with another. -/
def interior? (quote : Char) : List Char → Option (List Char)
  | [] => none
  | first :: rest =>
      if first = quote ∧ rest.getLast? = some quote then some rest.dropLast else none

/-- The text that a literal stands for. -/
def unquoted (text : List Char) : List Char :=
  match interior? '\'' text with
  | some inner => halved '\'' inner
  | none =>
      match interior? '"' text with
      | some inner => halved '"' inner
      | none => text

theorem halved_cons_of_ne {quote c : Char} (text : List Char) (other : c ≠ quote) :
    halved quote (c :: text) = c :: halved quote text := by
  cases text <;> simp [halved, other]

/-- Reading doubled quotes undoes writing them. -/
theorem halved_doubled (quote : Char) (text : List Char) :
    halved quote (doubled quote text) = text := by
  induction text with
  | nil => rfl
  | cons c rest ih =>
      by_cases h : c = quote
      · simp [doubled, halved, h, ih]
      · simp [doubled, h, halved_cons_of_ne _ h, ih]

end Text
end InsertRouting
