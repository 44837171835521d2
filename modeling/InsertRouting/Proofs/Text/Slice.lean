import InsertRouting.Proofs.Text.Boundary

namespace InsertRouting
namespace Text

/-!
# The part of a text at a span

A span names its two ends by byte offsets, and the part of the text between them is known
by its length and by the length of what stands in front of it.  There is at most one such
part.  There is none exactly when the ends are in the wrong order, when the span runs past
the end of the text, or when one of its ends lies inside a character.
-/

/-- The part of the text that fills the bytes `start` through `stop`. -/
def StandsAt (start stop : Nat) (text part : String) : Prop :=
  start ≤ stop ∧ ∃ before after : String, text = before ++ part ++ after ∧
    before.utf8ByteSize = start ∧ part.utf8ByteSize = stop - start + 1

/-- The offset falls between two bytes of one character of the text. -/
def InsideCharacter (offset : Nat) (text : List Char) : Prop :=
  ∃ before c after, text = before ++ c :: after ∧
    byteLength before < offset ∧ offset < byteLength before + c.utf8Size

section Parts

variable {start stop : Nat} {text part : String}

/-- The reader finds exactly the part that stands at the span. -/
theorem standsAt_iff_slice? :
    StandsAt start stop text part ↔ slice? start stop text.toList = some part.toList := by
  rw [slice?_eq_some_iff]
  constructor
  · rintro ⟨hle, before, after, rfl, hbefore, hpart⟩
    refine ⟨hle, before.toList, after.toList, ?_, ?_, ?_⟩
    · rw [String.toList_append, String.toList_append]
    · rw [byteLength_toList, hbefore]
    · rw [byteLength_toList, hpart]
  · rintro ⟨hle, before, after, htext, hbefore, hpart⟩
    refine ⟨hle, String.ofList before, String.ofList after, ?_, ?_, ?_⟩
    · rw [← String.toList_inj, htext, String.toList_append, String.toList_append,
        String.toList_ofList, String.toList_ofList]
    · rw [← byteLength_toList, String.toList_ofList, hbefore]
    · rw [← byteLength_toList, hpart]

/-- Only one part of a text stands at a span. -/
theorem StandsAt.unique {other : String} (hpart : StandsAt start stop text part)
    (hother : StandsAt start stop text other) : part = other := by
  rw [standsAt_iff_slice?] at hpart hother
  rw [← String.toList_inj]
  exact Option.some.inj (hpart.symm.trans hother)

/-- A span is never longer than its text. -/
theorem StandsAt.stop_lt (hpart : StandsAt start stop text part) :
    stop < text.utf8ByteSize := by
  obtain ⟨hle, before, after, rfl, hbefore, hsize⟩ := hpart
  rw [String.utf8ByteSize_append, String.utf8ByteSize_append]
  omega

/-- What stands at two spans in a row, put together, stands at the span of both. -/
theorem StandsAt.append {middle : Nat} {first second : String}
    (hfirst : StandsAt start middle text first)
    (hsecond : StandsAt (middle + 1) stop text second) :
    StandsAt start stop text (first ++ second) := by
  obtain ⟨hle, before, rest, htext, hbefore, hsize⟩ := hfirst
  obtain ⟨hle', front, after, htext', hfront, hsize'⟩ := hsecond
  -- The second span starts behind as many bytes as the first one ends with.
  have hcut : splitAtByte? (middle + 1) text.toList =
      some ((before ++ first).toList, rest.toList) := by
    rw [splitAtByte?_eq_some_iff, byteLength_toList, String.utf8ByteSize_append, htext,
      String.toList_append]
    exact ⟨rfl, by omega⟩
  have hcut' : splitAtByte? (middle + 1) text.toList =
      some (front.toList, (second ++ after).toList) := by
    rw [splitAtByte?_eq_some_iff, byteLength_toList, htext', String.append_assoc,
      String.toList_append]
    exact ⟨rfl, hfront⟩
  have hsame : before ++ first = front := by
    rw [hcut, Option.some_inj] at hcut'
    exact String.toList_inj.1 (Prod.mk.inj hcut').1
  refine ⟨by omega, before, after, ?_, hbefore, ?_⟩
  · rw [htext', ← hsame]
    simp only [String.append_assoc]
  · rw [String.utf8ByteSize_append]
    omega

end Parts

section Boundaries

variable {offset : Nat} {text : List Char}

theorem IsBoundary.le (hboundary : IsBoundary offset text) : offset ≤ byteLength text := by
  obtain ⟨before, after, rfl, rfl⟩ := hboundary
  rw [byteLength_append]
  omega

theorem IsBoundary.not_insideCharacter (hboundary : IsBoundary offset text) :
    ¬ InsideCharacter offset text := by
  rintro ⟨front, c, rest, hsplit, hfront, hoffset⟩
  obtain ⟨before, after, rfl, rfl⟩ := hboundary
  rcases List.append_eq_append_iff.1 hsplit with ⟨extra, rfl, -⟩ | ⟨extra, rfl, hbehind⟩
  · rw [byteLength_append] at hfront
    omega
  · rw [byteLength_append] at hfront hoffset
    cases extra with
    | nil => simp [byteLength] at hfront
    | cons d extra =>
        -- The character would have to end in front of the offset.
        obtain ⟨rfl, -⟩ := List.cons.inj hbehind
        rw [byteLength] at hoffset
        omega

theorem IsBoundary.cons (hboundary : IsBoundary offset text) (c : Char) :
    IsBoundary (offset + c.utf8Size) (c :: text) := by
  obtain ⟨before, after, rfl, rfl⟩ := hboundary
  exact ⟨c :: before, after, rfl, by rw [byteLength]; omega⟩

theorem InsideCharacter.cons (hinside : InsideCharacter offset text) (c : Char) :
    InsideCharacter (offset + c.utf8Size) (c :: text) := by
  obtain ⟨before, d, after, rfl, hbefore, hoffset⟩ := hinside
  exact ⟨c :: before, d, after, rfl, by rw [byteLength]; omega, by rw [byteLength]; omega⟩

/-- There is no fourth place for an offset. -/
theorem isBoundary_or_insideCharacter_or_lt (offset : Nat) (text : List Char) :
    IsBoundary offset text ∨ InsideCharacter offset text ∨ byteLength text < offset := by
  induction text generalizing offset with
  | nil =>
      rcases Nat.eq_zero_or_pos offset with rfl | hpos
      · exact .inl ⟨[], [], rfl, rfl⟩
      · exact .inr (.inr hpos)
  | cons c rest ih =>
      by_cases hinside : offset < c.utf8Size
      · rcases Nat.eq_zero_or_pos offset with rfl | hpos
        · exact .inl ⟨[], c :: rest, rfl, rfl⟩
        · exact .inr (.inl ⟨[], c, rest, rfl, hpos, by rw [byteLength]; omega⟩)
      · obtain ⟨behind, rfl⟩ := Nat.exists_eq_add_of_le' (Nat.le_of_not_lt hinside)
        rcases ih behind with hboundary | hinside | hpast
        · exact .inl (hboundary.cons c)
        · exact .inr (.inl (hinside.cons c))
        · exact .inr (.inr (by rw [byteLength]; omega))

/-- An offset that is no boundary lies inside a character or past the end. -/
theorem not_isBoundary_iff :
    ¬ IsBoundary offset text ↔ InsideCharacter offset text ∨ byteLength text < offset := by
  constructor
  · intro hnone
    exact (isBoundary_or_insideCharacter_or_lt offset text).resolve_left hnone
  · rintro (hinside | hpast) hboundary
    · exact hboundary.not_insideCharacter hinside
    · exact absurd hboundary.le (Nat.not_le.2 hpast)

/-- All that can be wrong with a span. -/
theorem not_isSpan_iff {start stop : Nat} :
    ¬ IsSpan start stop text ↔
      stop < start ∨ byteLength text ≤ stop ∨ InsideCharacter start text ∨
        InsideCharacter (stop + 1) text := by
  unfold IsSpan
  rw [Classical.not_and_iff_not_or_not, Classical.not_and_iff_not_or_not, not_isBoundary_iff,
    not_isBoundary_iff, Nat.not_le]
  constructor
  · rintro (hinverted | (hinside | hpast) | hinside | hpast)
    · exact .inl hinverted
    · exact .inr (.inr (.inl hinside))
    · -- A span that starts past the end also stops there, unless it is inverted.
      rcases Nat.lt_or_ge stop start with hinverted | hordered
      · exact .inl hinverted
      · exact .inr (.inl (by omega))
    · exact .inr (.inr (.inr hinside))
    · exact .inr (.inl (by omega))
  · rintro (hinverted | hpast | hinside | hinside)
    · exact .inl hinverted
    · exact .inr (.inr (.inr (by omega)))
    · exact .inr (.inl (.inl hinside))
    · exact .inr (.inr (.inl hinside))

end Boundaries

end Text
end InsertRouting
