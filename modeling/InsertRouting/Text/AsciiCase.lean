namespace InsertRouting
namespace Text

/-!
# Comparison without regard to the case of the letters A to Z

Column names are compared with the 26 unaccented letters brought to one case and
every other character as it is.
-/

/-- The name with the letters A to Z in lower case. -/
def asciiFolded (name : String) : List Char :=
  name.toList.map Char.toLower

/-- The names are equal except for the case of the letters A to Z. -/
def sameExceptAsciiCase (left right : String) : Bool :=
  asciiFolded left == asciiFolded right

theorem sameExceptAsciiCase_iff {left right : String} :
    sameExceptAsciiCase left right = true ↔ asciiFolded left = asciiFolded right := by
  simp [sameExceptAsciiCase]

theorem sameExceptAsciiCase_refl (name : String) : sameExceptAsciiCase name name = true := by
  simp [sameExceptAsciiCase]

theorem sameExceptAsciiCase_comm (left right : String) :
    sameExceptAsciiCase left right = sameExceptAsciiCase right left := by
  rw [Bool.eq_iff_iff, sameExceptAsciiCase_iff, sameExceptAsciiCase_iff]
  exact eq_comm

end Text
end InsertRouting
