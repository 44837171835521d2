namespace InsertRouting
namespace Text
namespace Property

/-!
# Membership in a table of code point ranges

A character property is given by a list of inclusive ranges in increasing order.
The search stops at the first range that starts above the code point, which is
why the order matters.
-/

/-- The code point lies in one of the ranges, which are in increasing order. -/
def inRanges (code : Nat) : List (Nat × Nat) → Bool
  | [] => false
  | (first, last) :: rest =>
      if code < first then false
      else if code ≤ last then true
      else inRanges code rest

/-- A code point found by the search lies in a listed range. -/
theorem exists_range_of_inRanges {code : Nat} {ranges : List (Nat × Nat)}
    (found : inRanges code ranges = true) :
    ∃ range ∈ ranges, range.1 ≤ code ∧ code ≤ range.2 := by
  induction ranges with
  | nil => simp [inRanges] at found
  | cons range rest ih =>
      obtain ⟨first, last⟩ := range
      by_cases below : code < first
      · simp [inRanges, below] at found
      · by_cases within : code ≤ last
        · exact ⟨(first, last), by simp, by omega, within⟩
        · obtain ⟨range, mem, bounds⟩ := ih (by simpa [inRanges, below, within] using found)
          exact ⟨range, by simp [mem], bounds⟩

/-- The ranges are not empty, in increasing order, and start at the bound or above
it. -/
def increasingFrom (bound : Nat) : List (Nat × Nat) → Bool
  | [] => true
  | (first, last) :: rest =>
      decide (bound ≤ first) && decide (first ≤ last) && increasingFrom (last + 1) rest

theorem le_of_mem_of_increasingFrom {bound : Nat} {ranges : List (Nat × Nat)}
    (increasing : increasingFrom bound ranges = true) {range : Nat × Nat}
    (mem : range ∈ ranges) : bound ≤ range.1 := by
  induction ranges generalizing bound with
  | nil => simp at mem
  | cons head rest ih =>
      obtain ⟨first, last⟩ := head
      simp only [increasingFrom, Bool.and_eq_true, decide_eq_true_eq] at increasing
      rcases List.mem_cons.1 mem with rfl | mem
      · exact increasing.1.1
      · have := ih increasing.2 mem
        omega

/-- In a table in increasing order, the search finds exactly the code points of the
ranges. -/
theorem inRanges_iff_of_increasingFrom {bound code : Nat} {ranges : List (Nat × Nat)}
    (increasing : increasingFrom bound ranges = true) :
    inRanges code ranges = true ↔ ∃ range ∈ ranges, range.1 ≤ code ∧ code ≤ range.2 := by
  refine ⟨exists_range_of_inRanges, ?_⟩
  induction ranges generalizing bound with
  | nil => simp
  | cons head rest ih =>
      obtain ⟨first, last⟩ := head
      simp only [increasingFrom, Bool.and_eq_true, decide_eq_true_eq] at increasing
      rintro ⟨range, mem, lower, upper⟩
      rcases List.mem_cons.1 mem with rfl | mem
      · simp [inRanges, Nat.not_lt.2 lower, upper]
      · have above := le_of_mem_of_increasingFrom increasing.2 mem
        have found := ih increasing.2 ⟨range, mem, lower, upper⟩
        simp [inRanges, found, show ¬ code < first by omega]

end Property
end Text
end InsertRouting
