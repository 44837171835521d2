namespace InsertRouting
namespace Text

/-!
# Byte offsets into a text

Positions in a statement are byte offsets into the UTF-8 form of its text, while
the text itself is a list of characters.  `splitAtByte?` cuts a text at an
offset; it is refused past the end and inside a character.  `slice?` reads the
text between two offsets, the second one inclusive.
-/

/-- Number of bytes in the UTF-8 form of a text. -/
def byteLength : List Char → Nat
  | [] => 0
  | c :: rest => c.utf8Size + byteLength rest

theorem byteLength_append (left right : List Char) :
    byteLength (left ++ right) = byteLength left + byteLength right := by
  induction left with
  | nil => simp [byteLength]
  | cons c rest ih => simp [byteLength, ih, Nat.add_assoc]

/-- The text before and after a byte offset, if the offset is at most the byte
length and does not lie inside a character. -/
def splitAtByte? : Nat → List Char → Option (List Char × List Char)
  | 0, text => some ([], text)
  | _ + 1, [] => none
  | offset + 1, c :: rest =>
      if c.utf8Size ≤ offset + 1 then
        (splitAtByte? (offset + 1 - c.utf8Size) rest).map
          fun (before, after) => (c :: before, after)
      else none

theorem splitAtByte?_zero (text : List Char) :
    splitAtByte? 0 text = some ([], text) := by
  cases text <;> rfl

/-- Whatever precedes the offset can be cut off. -/
theorem splitAtByte?_append (before after : List Char) :
    splitAtByte? (byteLength before) (before ++ after) = some (before, after) := by
  induction before with
  | nil => exact splitAtByte?_zero after
  | cons c rest ih =>
      obtain ⟨size, hsize⟩ : ∃ size, c.utf8Size = size + 1 :=
        ⟨c.utf8Size - 1, by have := Char.utf8Size_pos c; omega⟩
      have offset : byteLength (c :: rest) = size + byteLength rest + 1 := by
        simp [byteLength, hsize]; omega
      rw [offset, List.cons_append, splitAtByte?, hsize]
      have back : size + byteLength rest + 1 - (size + 1) = byteLength rest := by omega
      simp [back, ih]

/-- A cut loses nothing and falls exactly on the offset. -/
theorem eq_append_of_splitAtByte? {offset : Nat} {text before after : List Char}
    (cut : splitAtByte? offset text = some (before, after)) :
    text = before ++ after ∧ byteLength before = offset := by
  induction text generalizing offset before after with
  | nil =>
      cases offset with
      | zero =>
          simp [splitAtByte?] at cut
          simp [cut, byteLength]
      | succ offset => simp [splitAtByte?] at cut
  | cons c rest ih =>
      cases offset with
      | zero =>
          simp [splitAtByte?] at cut
          simp [cut, byteLength]
      | succ offset =>
          rw [splitAtByte?] at cut
          split at cut
          · obtain ⟨⟨inner, tail⟩, hinner, heq⟩ := Option.map_eq_some_iff.1 cut
            obtain ⟨rfl, rfl⟩ := Prod.mk.inj heq
            obtain ⟨hrest, hlength⟩ := ih hinner
            refine ⟨by simp [hrest], ?_⟩
            simp [byteLength, hlength]; omega
          · simp at cut

/-- An offset cuts a text exactly where the text before it has that many bytes. -/
theorem splitAtByte?_eq_some_iff {offset : Nat} {text before after : List Char} :
    splitAtByte? offset text = some (before, after) ↔
      text = before ++ after ∧ byteLength before = offset :=
  ⟨eq_append_of_splitAtByte?, by rintro ⟨rfl, rfl⟩; exact splitAtByte?_append before after⟩

/-- The text from the byte `start` through the byte `stop`, if both ends fall
between characters and inside the text. -/
def slice? (start stop : Nat) (text : List Char) : Option (List Char) :=
  if stop < start then none
  else
    match splitAtByte? start text with
    | none => none
    | some (_, rest) =>
        match splitAtByte? (stop - start + 1) rest with
        | none => none
        | some (middle, _) => some middle

/-- A slice is what stands between a text of `start` bytes and the rest. -/
theorem slice?_eq_some_iff {start stop : Nat} {text middle : List Char} :
    slice? start stop text = some middle ↔
      start ≤ stop ∧ ∃ before after, text = before ++ middle ++ after ∧
        byteLength before = start ∧ byteLength middle = stop - start + 1 := by
  unfold slice?
  constructor
  · intro h
    split at h
    · simp at h
    · refine ⟨by omega, ?_⟩
      split at h
      · simp at h
      · rename_i before rest hbefore
        split at h
        · simp at h
        · rename_i inner after hmiddle
          obtain rfl := Option.some.inj h
          obtain ⟨rfl, hb⟩ := splitAtByte?_eq_some_iff.1 hbefore
          obtain ⟨rfl, hm⟩ := splitAtByte?_eq_some_iff.1 hmiddle
          exact ⟨before, after, by simp, hb, hm⟩
  · rintro ⟨hle, before, after, rfl, rfl, hm⟩
    rw [if_neg (by omega), List.append_assoc, splitAtByte?_append, ← hm]
    simp [splitAtByte?_append]

end Text
end InsertRouting
