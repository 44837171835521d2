import InsertRouting.Text.Offset

namespace InsertRouting
namespace Text

/-!
# Offsets into a longer text

A text in front of another one moves every offset by its bytes, and then everything
is read, or refused, as before.  A text behind another one moves no offset, and what
could be read can still be read.  It may make more offsets good: the old end of the
text is no longer the last of them.
-/

/-- Behind a leading text a cut keeps what follows it. -/
theorem splitAtByte?_shift (lead text : List Char) (offset : Nat) :
    splitAtByte? (offset + byteLength lead) (lead ++ text) =
      (splitAtByte? offset text).map fun (before, after) => (lead ++ before, after) := by
  induction lead with
  | nil => simp [byteLength]
  | cons c rest ih =>
      obtain ⟨size, hsize⟩ : ∃ size, c.utf8Size = size + 1 :=
        ⟨c.utf8Size - 1, by have := Char.utf8Size_pos c; omega⟩
      have hoffset : offset + byteLength (c :: rest) = offset + byteLength rest + size + 1 := by
        rw [byteLength, hsize]
        omega
      have hback : offset + byteLength rest + size + 1 - (size + 1) =
          offset + byteLength rest := by omega
      rw [hoffset, List.cons_append, splitAtByte?, hsize, if_pos (by omega), hback, ih,
        Option.map_map]
      rfl

/-- Behind a leading text the same is read at offsets that are larger by its bytes. -/
theorem slice?_shift (lead text : List Char) (start stop : Nat) :
    slice? (start + byteLength lead) (stop + byteLength lead) (lead ++ text) =
      slice? start stop text := by
  unfold slice?
  by_cases hinverted : stop < start
  · rw [if_pos hinverted, if_pos (by omega)]
  · rw [if_neg hinverted, if_neg (by omega), splitAtByte?_shift, Nat.add_sub_add_right]
    cases splitAtByte? start text <;> rfl

/-- In front of a trailing text a cut keeps what precedes it. -/
theorem splitAtByte?_append_of_eq_some {offset : Nat} {text before after : List Char}
    (hcut : splitAtByte? offset text = some (before, after)) (tail : List Char) :
    splitAtByte? offset (text ++ tail) = some (before, after ++ tail) := by
  obtain ⟨rfl, hbefore⟩ := splitAtByte?_eq_some_iff.1 hcut
  exact splitAtByte?_eq_some_iff.2 ⟨List.append_assoc before after tail, hbefore⟩

/-- What can be read in front of a trailing text can be read with it. -/
theorem slice?_append_of_eq_some {start stop : Nat} {text middle : List Char}
    (hslice : slice? start stop text = some middle) (tail : List Char) :
    slice? start stop (text ++ tail) = some middle := by
  obtain ⟨hle, before, after, rfl, hbefore, hmiddle⟩ := slice?_eq_some_iff.1 hslice
  exact slice?_eq_some_iff.2
    ⟨hle, before, after ++ tail, List.append_assoc _ after tail, hbefore, hmiddle⟩

end Text
end InsertRouting
