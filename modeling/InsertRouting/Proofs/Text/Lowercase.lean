import InsertRouting.Proofs.Text.LetterCase
import InsertRouting.Text.Lowercase

namespace InsertRouting
namespace Text

/-!
# Lower-case forms of two spellings

The lower-case form of a text depends on what stands around a capital sigma, and it may be
longer than the text.  Even so two spellings of a name have one lower-case form: the two
cases of a letter from A to Z have the same form, both of them are letters with a case, and
neither is skipped in the search for a neighbour.  So a respelled text looks the same from
every sigma in it.
-/

/-- What is the same for the two cases of every letter from A to Z is the same for
characters that differ in nothing else. -/
theorem SameLetter.congr {α : Type} {f : Char → α}
    (hletters : ∀ capital small, IsSmallFormOf capital small → f capital = f small)
    {left right : Char} (hsame : SameLetter left right) : f left = f right := by
  rcases hsame with rfl | hsmall | hcapital
  · rfl
  · exact hletters left right hsmall
  · exact (hletters right left hcapital).symm

section Letters

variable {capital small : Char}

theorem isCased_of_letter {c : Char}
    (hletter : 65 ≤ c.toNat ∧ c.toNat ≤ 90 ∨ 97 ≤ c.toNat ∧ c.toNat ≤ 122) :
    isCased c = true := by
  apply (Property.inRanges_iff_of_increasingFrom Property.casedRanges_increasing).2
  rcases hletter with hcapital | hsmall
  · exact ⟨(0x41, 0x5a), .head _, hcapital⟩
  · exact ⟨(0x61, 0x7a), .tail _ (.head _), hsmall⟩

theorem isCaseIgnorable_of_letter {c : Char}
    (hletter : 65 ≤ c.toNat ∧ c.toNat ≤ 90 ∨ 97 ≤ c.toNat ∧ c.toNat ≤ 122) :
    isCaseIgnorable c = false := by
  -- No range of the table reaches into either row of letters.
  have hapart : ∀ range ∈ Property.caseIgnorableRanges,
      range.2 < 65 ∨ (90 < range.1 ∧ range.2 < 97) ∨ 122 < range.1 := by
    decide +kernel
  rw [Bool.eq_false_iff]
  intro hignorable
  obtain ⟨range, hmem, hlower, hupper⟩ := Property.exists_range_of_inRanges hignorable
  have hrange := hapart range hmem
  omega

theorem lowercaseChar_of_capital (hsmall : IsSmallFormOf capital small) :
    lowercaseChar capital = small := by
  obtain ⟨hlower, hupper, hdistance⟩ := hsmall
  have hcovers : (⟨0x41, 0x5a, 1, 32⟩ : Property.CaseRun).covers capital.toNat = true := by
    simp [Property.CaseRun.covers, hlower, hupper, Nat.mod_one]
  have hrun : Property.lowercaseRuns.find? (·.covers capital.toNat) =
      some ⟨0x41, 0x5a, 1, 32⟩ :=
    List.find?_cons_of_pos hcovers
  have hmoved : Int.toNat (capital.toNat + 32) = small.toNat := by omega
  rw [lowercaseChar, hrun]
  dsimp only
  rw [hmoved, Char.ofNat_toNat]

theorem lowercaseChar_of_small (hsmall : IsSmallFormOf capital small) :
    lowercaseChar small = small := by
  obtain ⟨hlower, hupper, hdistance⟩ := hsmall
  have hapart : ∀ run ∈ Property.lowercaseRuns, run.last < 97 ∨ 122 < run.first := by
    decide +kernel
  have hnone : Property.lowercaseRuns.find? (·.covers small.toNat) = none := by
    rw [List.find?_eq_none]
    intro run hmem hcovers
    simp only [Property.CaseRun.covers, Bool.and_eq_true, decide_eq_true_eq] at hcovers
    have hrun := hapart run hmem
    omega
  rw [lowercaseChar, hnone]

end Letters

section SameLetter

variable {left right : Char}

theorem SameLetter.isCased_eq (hsame : SameLetter left right) : isCased left = isCased right := by
  refine hsame.congr fun capital small ⟨hlower, hupper, hdistance⟩ => ?_
  rw [isCased_of_letter (.inl ⟨hlower, hupper⟩), isCased_of_letter (.inr (by omega))]

theorem SameLetter.isCaseIgnorable_eq (hsame : SameLetter left right) :
    isCaseIgnorable left = isCaseIgnorable right := by
  refine hsame.congr fun capital small ⟨hlower, hupper, hdistance⟩ => ?_
  rw [isCaseIgnorable_of_letter (.inl ⟨hlower, hupper⟩),
    isCaseIgnorable_of_letter (.inr (by omega))]

theorem SameLetter.lowercaseChar_eq (hsame : SameLetter left right) :
    lowercaseChar left = lowercaseChar right := by
  refine hsame.congr fun capital small hsmall => ?_
  rw [lowercaseChar_of_capital hsmall, lowercaseChar_of_small hsmall]

/-- A character outside A to Z is in one spelling where it is in the other. -/
theorem SameLetter.eq_iff_eq (hsame : SameLetter left right) {c : Char} (hc : 122 < c.toNat) :
    left = c ↔ right = c := by
  refine Iff.of_eq (hsame.congr (f := (· = c)) fun capital small ⟨_, hupper, hdistance⟩ => ?_)
  rw [eq_iff_iff, ← Char.toNat_inj, ← Char.toNat_inj]
  omega

end SameLetter

section Spellings

/-- From a sigma the two spellings look the same. -/
theorem startsCased_eq_of_sameLetters {left right : List Char}
    (hsame : List.Forall₂ SameLetter left right) : startsCased left = startsCased right := by
  induction hsame with
  | nil => rfl
  | @cons c d left right hletter _ ih =>
      unfold startsCased at ih ⊢
      rw [List.dropWhile_cons, List.dropWhile_cons, hletter.isCaseIgnorable_eq]
      cases isCaseIgnorable d with
      | true => exact ih
      | false => exact hletter.isCased_eq

theorem lowercaseAt_eq_of_sameLetters {before before' after after' : List Char} {c d : Char}
    (hbefore : List.Forall₂ SameLetter before before') (hletter : SameLetter c d)
    (hafter : List.Forall₂ SameLetter after after') :
    lowercaseAt before c after = lowercaseAt before' d after' := by
  unfold lowercaseAt
  simp only [hletter.eq_iff_eq (c := 'Σ') (by decide), hletter.eq_iff_eq (c := 'İ') (by decide),
    startsCased_eq_of_sameLetters hbefore, startsCased_eq_of_sameLetters hafter,
    hletter.lowercaseChar_eq]

theorem lowercaseFrom_eq_of_sameLetters {before before' left right : List Char}
    (hbefore : List.Forall₂ SameLetter before before')
    (hsame : List.Forall₂ SameLetter left right) :
    lowercaseFrom before left = lowercaseFrom before' right := by
  -- Each character joins the text in front of the next one.
  induction hsame generalizing before before' with
  | nil => rfl
  | cons hletter hafter ih =>
      rw [lowercaseFrom, lowercaseFrom, lowercaseAt_eq_of_sameLetters hbefore hletter hafter,
        ih (.cons hletter hbefore)]

/-- Two spellings of a name have one lower-case form. -/
theorem Respelled.lowercase_eq {left right : String} (hspelled : Respelled left right) :
    lowercase left = lowercase right := by
  unfold lowercase
  rw [lowercaseFrom_eq_of_sameLetters .nil hspelled]

/-- The converse does not hold: only the lower-case form brings the two cases of a sigma
together, and it tells the last letter of a word from the others. -/
example : lowercase "ΟΔΟΣ_Id" = "οδος_id" ∧ lowercase "οδοσ_iD" = "οδοσ_id" ∧
    lowercase "οδΟΣ_id" = lowercase "ΟΔΟΣ_ID" := by decide +kernel

end Spellings

end Text
end InsertRouting
