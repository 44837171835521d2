import InsertRouting.Text.Offset

namespace InsertRouting
namespace Text

/-!
# Boundaries between characters

An offset into a text is good when it falls between two characters or at an end
of the text, and two offsets enclose a span when both of them are good and at
least one byte lies between them.  The functions that cut a text succeed on
exactly these offsets.
-/

theorem size_utf8Encode (text : List Char) :
    text.utf8Encode.size = byteLength text := by
  induction text with
  | nil => rfl
  | cons c rest ih =>
      rw [← List.singleton_append, List.utf8Encode_append, ByteArray.size_append, ih]
      simp [byteLength, List.utf8Encode_singleton]

/-- Counting the bytes of the characters gives the size of the text. -/
theorem byteLength_toList (text : String) :
    byteLength text.toList = text.utf8ByteSize := by
  rw [← size_utf8Encode, String.utf8Encode_toList, String.size_toByteArray]

/-- The offset falls between two characters of the text or at one of its ends. -/
def IsBoundary (offset : Nat) (text : List Char) : Prop :=
  ∃ before after, text = before ++ after ∧ byteLength before = offset

/-- The bytes `start` through `stop` are at least one character of the text, and
only whole ones. -/
def IsSpan (start stop : Nat) (text : List Char) : Prop :=
  start ≤ stop ∧ IsBoundary start text ∧ IsBoundary (stop + 1) text

/-- A character starts at every boundary in front of the end. -/
theorem exists_first_iff {offset : Nat} {text : List Char} :
    (∃ before first rest, text = before ++ first :: rest ∧ byteLength before = offset) ↔
      offset < byteLength text ∧ IsBoundary offset text := by
  constructor
  · rintro ⟨before, first, rest, rfl, rfl⟩
    refine ⟨?_, before, first :: rest, rfl, rfl⟩
    have hpos := Char.utf8Size_pos first
    rw [byteLength_append, byteLength]
    omega
  · rintro ⟨hlt, before, after, rfl, rfl⟩
    cases after with
    | nil =>
        rw [List.append_nil] at hlt
        omega
    | cons first rest => exact ⟨before, first, rest, rfl, rfl⟩

/-- Two boundaries enclose whole characters. -/
theorem isSpan_iff {start stop : Nat} {text : List Char} :
    IsSpan start stop text ↔
      start ≤ stop ∧ ∃ before middle after, text = before ++ middle ++ after ∧
        byteLength before = start ∧ byteLength middle = stop - start + 1 := by
  constructor
  · rintro ⟨hle, ⟨before, rest, rfl, hbefore⟩, upto, after, htext, hupto⟩
    refine ⟨hle, ?_⟩
    rcases List.append_eq_append_iff.1 htext with ⟨middle, rfl, rfl⟩ | ⟨extra, rfl, rfl⟩
    · rw [byteLength_append] at hupto
      exact ⟨before, middle, after, by simp, hbefore, by omega⟩
    · -- The cut behind the span would stand in front of it.
      rw [byteLength_append] at hbefore
      omega
  · rintro ⟨hle, before, middle, after, rfl, hbefore, hmiddle⟩
    refine ⟨hle, ⟨before, middle ++ after, by simp, hbefore⟩,
      before ++ middle, after, rfl, ?_⟩
    rw [byteLength_append]
    omega

theorem isSpan_iff_slice? {start stop : Nat} {text : List Char} :
    IsSpan start stop text ↔ ∃ middle, slice? start stop text = some middle := by
  simp only [isSpan_iff, slice?_eq_some_iff]
  constructor
  · rintro ⟨hle, before, middle, after, hcut⟩
    exact ⟨middle, hle, before, after, hcut⟩
  · rintro ⟨middle, hle, before, after, hcut⟩
    exact ⟨hle, before, middle, after, hcut⟩

/-- Exactly the spans of a text can be read. -/
theorem slice?_eq_none_iff {start stop : Nat} {text : List Char} :
    slice? start stop text = none ↔ ¬ IsSpan start stop text := by
  rw [isSpan_iff_slice?]
  cases slice? start stop text <;> simp

end Text
end InsertRouting
