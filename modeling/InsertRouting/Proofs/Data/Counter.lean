import Mathlib.Algebra.GroupWithZero.Nat

namespace InsertRouting

/-!
# Counters of one word

A counter is a word of 64 bits, and adding to it wraps around.  What it has counted is
therefore known modulo the size of a word, and exactly as long as it fits.  A machine that
checks its sums stops at the first one that does not fit, so up to there it holds the same.
-/

/-- The counter has been brought to the total by additions that wrap around. -/
structure CountsTo (counter : UInt64) (total : Nat) : Prop where
  eq_ofNat : counter = UInt64.ofNat total
  toNat_eq : total < UInt64.size → counter.toNat = total

section CountsTo

variable {counter other : UInt64} {total further : Nat}

theorem countsTo_iff : CountsTo counter total ↔ counter = UInt64.ofNat total := by
  constructor
  · exact CountsTo.eq_ofNat
  · rintro rfl
    exact ⟨rfl, UInt64.toNat_ofNat_of_lt'⟩

theorem countsTo_toNat (counter : UInt64) : CountsTo counter counter.toNat :=
  countsTo_iff.2 UInt64.ofNat_toNat.symm

theorem countsTo_zero : CountsTo 0 0 := countsTo_toNat 0

theorem CountsTo.add (hcounter : CountsTo counter total) (hother : CountsTo other further) :
    CountsTo (counter + other) (total + further) := by
  rw [countsTo_iff, UInt64.ofNat_add, hcounter.eq_ofNat, hother.eq_ofNat]

/-- What has been added up from other counters is the sum of what these have counted. -/
theorem CountsTo.of_sum {α : Type} {items : List α} {count : α → UInt64} {number : α → Nat}
    (hsum : CountsTo counter (items.map fun item => (count item).toNat).sum)
    (hitems : ∀ item ∈ items, CountsTo (count item) (number item)) :
    CountsTo counter (items.map number).sum := by
  rw [hsum.eq_ofNat]
  clear hsum
  induction items with
  | nil => exact countsTo_zero
  | cons item rest ih =>
      rw [List.map_cons, List.map_cons, List.sum_cons, List.sum_cons, UInt64.ofNat_add,
        UInt64.ofNat_toNat]
      exact (hitems item List.mem_cons_self).add
        (ih fun later hlater => hitems later (List.mem_cons_of_mem _ hlater))

end CountsTo

end InsertRouting
