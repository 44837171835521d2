import InsertRouting.Text.AsciiCase
import Mathlib.Data.List.Forall2

namespace InsertRouting
namespace Text

/-!
# Spellings of a name

Two names are spellings of each other when they have the same characters at the same
places, the letters from A to Z in either case.  A letter outside this range has one
case only, whatever Unicode says about it.  The comparison of column names by folding
decides exactly this relation.
-/

/-- The second character is the small form of the first one, a capital from A to Z. -/
def IsSmallFormOf (capital small : Char) : Prop :=
  65 ≤ capital.toNat ∧ capital.toNat ≤ 90 ∧ small.toNat = capital.toNat + 32

/-- The characters differ at most in the case of a letter from A to Z. -/
def SameLetter (left right : Char) : Prop :=
  left = right ∨ IsSmallFormOf left right ∨ IsSmallFormOf right left

/-- The texts differ at most in the case of letters from A to Z. -/
def Respelled (left right : String) : Prop :=
  List.Forall₂ SameLetter left.toList right.toList

/-- Folding moves the capitals from A to Z by 32 and nothing else. -/
theorem toNat_toLower (c : Char) :
    c.toLower.toNat =
      if 65 ≤ c.toNat ∧ c.toNat ≤ 90 then c.toNat + 32 else c.toNat := by
  have hcapital : (c.val ≥ 'A'.val ∧ c.val ≤ 'Z'.val) ↔ (65 ≤ c.toNat ∧ c.toNat ≤ 90) := by
    rw [ge_iff_le, UInt32.le_iff_toNat_le, UInt32.le_iff_toNat_le]
    exact Iff.rfl
  unfold Char.toLower
  by_cases h : 65 ≤ c.toNat ∧ c.toNat ≤ 90
  · rw [dif_pos (hcapital.2 h), if_pos h]
    have hmoved : (c.val + ('a'.val - 'A'.val)).toNat = c.val.toNat + 32 := by
      rw [UInt32.toNat_add]
      have hdistance : ('a'.val - 'A'.val).toNat = 32 := rfl
      have hval : c.val.toNat = c.toNat := rfl
      omega
    exact hmoved
  · rw [dif_neg (fun hval => h (hcapital.1 hval)), if_neg h]

theorem sameLetter_iff {left right : Char} :
    SameLetter left right ↔ left.toLower = right.toLower := by
  rw [← Char.toNat_inj, toNat_toLower, toNat_toLower]
  unfold SameLetter IsSmallFormOf
  rw [← Char.toNat_inj]
  split <;> split <;> omega

/-- The comparison of column names decides whether one is a spelling of the other. -/
theorem sameExceptAsciiCase_iff_respelled {left right : String} :
    sameExceptAsciiCase left right = true ↔ Respelled left right := by
  have hfolded : asciiFolded left = asciiFolded right ↔
      List.Forall₂ (fun a b : Char => a.toLower = b.toLower) left.toList right.toList := by
    unfold asciiFolded
    rw [← List.forall₂_eq_eq_eq, List.forall₂_map_left_iff, List.forall₂_map_right_iff]
  have hletter : SameLetter = fun a b => a.toLower = b.toLower := by
    funext a b
    exact propext sameLetter_iff
  rw [sameExceptAsciiCase_iff, hfolded, Respelled, hletter]

instance (left right : String) : Decidable (Respelled left right) :=
  decidable_of_iff _ sameExceptAsciiCase_iff_respelled

theorem Respelled.refl (name : String) : Respelled name name :=
  sameExceptAsciiCase_iff_respelled.1 (sameExceptAsciiCase_refl name)

theorem Respelled.symm {left right : String} (hspelled : Respelled left right) :
    Respelled right left := by
  rw [← sameExceptAsciiCase_iff_respelled] at hspelled ⊢
  rw [sameExceptAsciiCase_comm]
  exact hspelled

/-- A comparison does not see how its two sides are spelled. -/
theorem Respelled.sameExceptAsciiCase_eq {left left' right right' : String}
    (hleft : Respelled left left') (hright : Respelled right right') :
    sameExceptAsciiCase left right = sameExceptAsciiCase left' right' := by
  rw [← sameExceptAsciiCase_iff_respelled, sameExceptAsciiCase_iff] at hleft hright
  unfold sameExceptAsciiCase
  rw [hleft, hright]

/-- Only the unaccented letters have a second case. -/
example : Respelled "Straße_É" "sTRAßE_É" ∧ ¬ Respelled "É" "é" := by decide

end Text
end InsertRouting
