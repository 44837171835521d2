import InsertRouting.Number.Double
import Mathlib.Algebra.Order.Field.Power
import Mathlib.Data.Rat.Cast.Order
import Mathlib.Tactic.Linarith

namespace InsertRouting
namespace Number
namespace Double

/-!
# Doubles as numbers

A finite double is its sign, times its significand, times a power of two.  All finite
doubles are multiples of the smallest positive one, and the fields of a double are
determined by which multiple it is.  So two doubles stand for the same number only if their
bits are the same, or both are zeros: comparison of the bits, with the zeros made equal, is
comparison of the numbers.
-/

/-- The number that a finite double stands for. -/
def number (d : Double) : ℚ :=
  (if d.isNegative then -1 else 1) * (d.significand * 2 ^ d.scale)

/-- What a double can stand for. -/
inductive Value
  | infinite (negative : Bool)
  | finite (number : ℚ)

/-- What a double stands for; a NaN stands for nothing. -/
def value? (d : Double) : Option Value :=
  if d.isNaN then none
  else if d.isInfinite then some (.infinite d.isNegative)
  else some (.finite d.number)

/-- The size of a finite double, counted in smallest positive doubles. -/
def multiple (d : Double) : Nat :=
  d.significand * 2 ^ (d.exponentField - 1)

section Fields

variable {left right d : Double}

theorem bits_inj : left.bits = right.bits ↔ left = right := by
  cases left
  cases right
  rw [mk.injEq]

theorem fractionField_lt (d : Double) : d.fractionField < exponentWeight :=
  Nat.mod_lt _ (by decide)

/-- The sign and the two fields make up the bits. -/
theorem eq_of_fields (hsign : left.isNegative = right.isNegative)
    (hexponent : left.exponentField = right.exponentField)
    (hfraction : left.fractionField = right.fractionField) : left = right := by
  have hleft : left.bits.toNat < 2 ^ 64 := left.bits.toNat_lt
  have hright : right.bits.toNat < 2 ^ 64 := right.bits.toNat_lt
  have hsame : left.bits.toNat = right.bits.toNat := by
    rw [isNegative, isNegative, decide_eq_decide] at hsign
    simp only [exponentField, fractionField, exponentWeight, lastExponent, signWeight] at *
    omega
  exact bits_inj.1 (UInt64.toNat_inj.1 hsame)

theorem beq_iff :
    (left == right) = true ↔ left.isNaN = false ∧ right.isNaN = false ∧
      (left = right ∨ left.isZero = true ∧ right.isZero = true) := by
  rw [beq_eq, equal]
  simp only [Bool.and_eq_true, Bool.or_eq_true, Bool.not_eq_true', beq_iff_eq, bits_inj,
    and_assoc]

theorem isZero_iff : d.isZero = true ↔ d.exponentField = 0 ∧ d.fractionField = 0 := by
  simp [isZero]

theorem isInfinite_iff :
    d.isInfinite = true ↔ d.exponentField = lastExponent ∧ d.fractionField = 0 := by
  simp [isInfinite]

theorem isNaN_eq_false_of_isZero (hzero : d.isZero = true) : d.isNaN = false := by
  simp [isNaN, (isZero_iff.1 hzero).1, lastExponent]

theorem isInfinite_eq_false_of_isZero (hzero : d.isZero = true) : d.isInfinite = false := by
  simp [isInfinite, (isZero_iff.1 hzero).1, lastExponent]

end Fields

section Multiples

variable {left right d : Double}

/-- The exponent bounds a double from above. -/
theorem multiple_lt (d : Double) : d.multiple < exponentWeight * 2 ^ d.exponentField := by
  have hfraction := fractionField_lt d
  unfold multiple significand
  split
  · rename_i hzero
    rw [hzero, Nat.zero_sub, Nat.pow_zero, Nat.mul_one, Nat.mul_one]
    exact hfraction
  · rename_i hpos
    obtain ⟨exponent, hexponent⟩ := Nat.exists_eq_succ_of_ne_zero hpos
    have htwice : exponentWeight * 2 ^ d.exponentField =
        2 * exponentWeight * 2 ^ (d.exponentField - 1) := by
      rw [hexponent, Nat.succ_sub_one, Nat.pow_succ, ← Nat.mul_assoc, Nat.mul_comm _ 2,
        ← Nat.mul_assoc]
    rw [htwice]
    exact Nat.mul_lt_mul_of_pos_right (by omega) (Nat.two_pow_pos _)

/-- A positive exponent field bounds a double from below. -/
theorem le_multiple (hpos : d.exponentField ≠ 0) :
    exponentWeight * 2 ^ (d.exponentField - 1) ≤ d.multiple := by
  rw [multiple, significand, if_neg hpos]
  exact Nat.mul_le_mul_right _ (Nat.le_add_right _ _)

theorem multiple_lt_of_exponentField_lt (hlt : left.exponentField < right.exponentField) :
    left.multiple < right.multiple :=
  calc left.multiple < exponentWeight * 2 ^ left.exponentField := multiple_lt left
    _ ≤ exponentWeight * 2 ^ (right.exponentField - 1) :=
        Nat.mul_le_mul_left _ (Nat.pow_le_pow_right (by decide) (by omega))
    _ ≤ right.multiple := le_multiple (by omega)

/-- The multiple determines the two fields. -/
theorem fields_eq_of_multiple_eq (hsame : left.multiple = right.multiple) :
    left.exponentField = right.exponentField ∧ left.fractionField = right.fractionField := by
  have hexponent : left.exponentField = right.exponentField := by
    rcases Nat.lt_trichotomy left.exponentField right.exponentField with hlt | heq | hlt
    · exact absurd hsame (Nat.ne_of_lt (multiple_lt_of_exponentField_lt hlt))
    · exact heq
    · exact absurd hsame.symm (Nat.ne_of_lt (multiple_lt_of_exponentField_lt hlt))
  refine ⟨hexponent, ?_⟩
  have hsignificand : left.significand = right.significand := by
    rw [multiple, multiple, hexponent] at hsame
    exact Nat.eq_of_mul_eq_mul_right (Nat.two_pow_pos _) hsame
  unfold significand at hsignificand
  rw [hexponent] at hsignificand
  split at hsignificand
  · exact hsignificand
  · exact Nat.add_left_cancel hsignificand

theorem multiple_eq_zero_iff : d.multiple = 0 ↔ d.isZero = true := by
  rw [isZero_iff]
  constructor
  · intro hzero
    have hexponent : d.exponentField = 0 := by
      by_contra hpos
      have hle := le_multiple hpos
      have hweight : 0 < exponentWeight * 2 ^ (d.exponentField - 1) :=
        Nat.mul_pos (by decide) (Nat.two_pow_pos _)
      omega
    refine ⟨hexponent, ?_⟩
    rw [multiple, significand, if_pos hexponent, hexponent] at hzero
    simpa using hzero
  · rintro ⟨hexponent, hfraction⟩
    rw [multiple, significand, if_pos hexponent, hfraction, Nat.zero_mul]

/-- A finite double is a multiple of the smallest positive one. -/
theorem number_eq_multiple (d : Double) :
    d.number = (if d.isNegative then -1 else 1) * (d.multiple * 2 ^ (-1074 : ℤ)) := by
  have hscale : d.scale = ((d.exponentField - 1 : ℕ) : ℤ) + (-1074) := by
    unfold scale
    split <;> omega
  rw [number, hscale, zpow_add₀ (by norm_num), zpow_natCast, multiple, Nat.cast_mul,
    Nat.cast_pow, Nat.cast_ofNat, mul_assoc]

/-- Two finite doubles that stand for one number are the same, or both are zeros. -/
theorem eq_or_isZero_of_number_eq (hsame : left.number = right.number) :
    left = right ∨ left.isZero = true ∧ right.isZero = true := by
  rw [number_eq_multiple, number_eq_multiple] at hsame
  have hunit : (0 : ℚ) < 2 ^ (-1074 : ℤ) := by positivity
  by_cases hsign : left.isNegative = right.isNegative
  · left
    have hmultiple : (left.multiple : ℚ) = right.multiple := by
      rw [hsign] at hsame
      have hfactor : (if right.isNegative then -1 else 1 : ℚ) ≠ 0 := by
        split <;> norm_num
      exact mul_right_cancel₀ hunit.ne' (mul_left_cancel₀ hfactor hsame)
    obtain ⟨hexponent, hfraction⟩ := fields_eq_of_multiple_eq (Nat.cast_injective hmultiple)
    exact eq_of_fields hsign hexponent hfraction
  · right
    -- Of two numbers with different signs that are equal, both are zero.
    have hleft : (0 : ℚ) ≤ left.multiple * 2 ^ (-1074 : ℤ) := by positivity
    have hright : (0 : ℚ) ≤ right.multiple * 2 ^ (-1074 : ℤ) := by positivity
    have hzero : (left.multiple : ℚ) * 2 ^ (-1074 : ℤ) = 0 ∧
        (right.multiple : ℚ) * 2 ^ (-1074 : ℤ) = 0 := by
      cases hl : left.isNegative <;> cases hr : right.isNegative <;>
        simp only [hl, hr, Bool.false_eq_true, if_true, if_false, not_true_eq_false] at hsame hsign
      · constructor <;> linarith
      · constructor <;> linarith
    rw [← multiple_eq_zero_iff, ← multiple_eq_zero_iff]
    constructor
    · exact_mod_cast (mul_eq_zero.1 hzero.1).resolve_right hunit.ne'
    · exact_mod_cast (mul_eq_zero.1 hzero.2).resolve_right hunit.ne'

theorem number_eq_zero (hzero : d.isZero = true) : d.number = 0 := by
  rw [number_eq_multiple, multiple_eq_zero_iff.2 hzero]
  simp

end Multiples

section Values

variable {left right d : Double}

theorem value?_eq_none_iff : d.value? = none ↔ d.isNaN = true := by
  unfold value?
  split
  · rename_i hnan
    simp [hnan]
  · rename_i hnumber
    split <;> simp [hnumber]

theorem value?_eq_infinite {negative : Bool} (hvalue : d.value? = some (.infinite negative)) :
    d.isInfinite = true ∧ d.isNegative = negative := by
  unfold value? at hvalue
  split at hvalue
  · cases hvalue
  · split at hvalue
    · rename_i hinfinite
      cases hvalue
      exact ⟨hinfinite, rfl⟩
    · cases hvalue

theorem value?_eq_finite {number : ℚ} (hvalue : d.value? = some (.finite number)) :
    d.number = number := by
  unfold value? at hvalue
  split at hvalue
  · cases hvalue
  · split at hvalue
    · cases hvalue
    · cases hvalue
      rfl

theorem value?_of_isZero (hzero : d.isZero = true) : d.value? = some (.finite 0) := by
  simp [value?, isNaN_eq_false_of_isZero hzero, isInfinite_eq_false_of_isZero hzero,
    number_eq_zero hzero]

/-- Two doubles that stand for the same are the same, or both are zeros. -/
theorem eq_or_isZero_of_value? {value : Value} (hleft : left.value? = some value)
    (hright : right.value? = some value) :
    left = right ∨ left.isZero = true ∧ right.isZero = true := by
  cases value with
  | infinite negative =>
      left
      obtain ⟨hinfinite, hsign⟩ := value?_eq_infinite hleft
      obtain ⟨hinfinite', hsign'⟩ := value?_eq_infinite hright
      obtain ⟨hexponent, hfraction⟩ := isInfinite_iff.1 hinfinite
      obtain ⟨hexponent', hfraction'⟩ := isInfinite_iff.1 hinfinite'
      exact eq_of_fields (hsign.trans hsign'.symm) (hexponent.trans hexponent'.symm)
        (hfraction.trans hfraction'.symm)
  | finite number =>
      exact eq_or_isZero_of_number_eq
        ((value?_eq_finite hleft).trans (value?_eq_finite hright).symm)

/-- Two doubles are equal exactly if they stand for the same number. -/
theorem beq_iff_value? :
    (left == right) = true ↔
      ∃ value, left.value? = some value ∧ right.value? = some value := by
  rw [beq_iff]
  constructor
  · rintro ⟨hnumber, -, rfl | ⟨hzero, hzero'⟩⟩
    · obtain ⟨value, hvalue⟩ := Option.ne_none_iff_exists'.1
        (mt value?_eq_none_iff.1 (Bool.eq_false_iff.1 hnumber))
      exact ⟨value, hvalue, hvalue⟩
    · exact ⟨.finite 0, value?_of_isZero hzero, value?_of_isZero hzero'⟩
  · rintro ⟨value, hleft, hright⟩
    have hnumber : ∀ {d : Double}, d.value? = some value → d.isNaN = false := by
      intro d hvalue
      rw [Bool.eq_false_iff]
      intro hnan
      rw [value?_eq_none_iff.2 hnan] at hvalue
      cases hvalue
    exact ⟨hnumber hleft, hnumber hright, eq_or_isZero_of_value? hleft hright⟩

end Values

/-- A zero without its sign, and any other double as it is. -/
def normal (d : Double) : Double :=
  if d.isZero then ⟨0⟩ else d

theorem normal_eq_iff {left right : Double} :
    left.normal = right.normal ↔
      left = right ∨ left.isZero = true ∧ right.isZero = true := by
  have hzero : isZero ⟨0⟩ = true := by decide
  unfold normal
  constructor
  · intro hsame
    split at hsame <;> split at hsame
    · rename_i hleft hright
      exact .inr ⟨hleft, hright⟩
    · rename_i hleft hright
      exact absurd (hsame ▸ hzero) hright
    · rename_i hleft hright
      exact absurd (hsame ▸ hzero) hleft
    · exact .inl hsame
  · rintro (rfl | ⟨hleft, hright⟩)
    · rfl
    · rw [if_pos hleft, if_pos hright]

/-- Two doubles are equal exactly if neither is a NaN and they differ at most by the sign of
a zero. -/
theorem beq_iff_normal {left right : Double} :
    (left == right) = true ↔
      left.isNaN = false ∧ right.isNaN = false ∧ left.normal = right.normal := by
  rw [beq_iff, normal_eq_iff]

end Double
end Number
end InsertRouting
