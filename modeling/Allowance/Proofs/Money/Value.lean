import Mathlib.Algebra.Order.Field.Rat
import Mathlib.Tactic.FieldSimp
import Mathlib.Tactic.Positivity
import Mathlib.Tactic.Ring
import Allowance.Money.Basic
import Allowance.Proofs.Number.Power

/-!
# The value of money

An amount stands for a rational number. Amounts of different precision are compared by aligning
them, which is comparing the numbers that they stand for.
-/

namespace Allowance.Money

open Number

/-- The number of whole units that an amount stands for. -/
def value (m : Money) : ℚ :=
  m.amount / 10 ^ m.precision

theorem amount_eq_value (m : Money) : (m.amount : ℚ) = m.value * 10 ^ m.precision := by
  rw [value, div_mul_cancel₀]
  positivity

theorem value_extend (m : Money) (extra : Nat) : (m.extend extra).value = m.value := by
  simp only [value, extend, Int.cast_mul, Int.cast_natCast, tenPow_eq_pow, pow_add]
  field_simp

theorem align_precision (a b : Money) : (align a b).1.precision = (align a b).2.precision := by
  simp only [align, extend]
  omega

theorem value_align (a b : Money) : (align a b).1.value = a.value ∧ (align a b).2.value = b.value :=
  ⟨value_extend a _, value_extend b _⟩

theorem value_pos_iff (m : Money) : 0 < m.value ↔ 0 < m.amount := by
  rw [value, div_pos_iff_of_pos_right (by positivity), Int.cast_pos]

theorem value_nonneg_iff (m : Money) : 0 ≤ m.value ↔ 0 ≤ m.amount := by
  rw [value, le_div_iff₀ (by positivity), zero_mul, Int.cast_nonneg_iff]

/-- Amounts of one precision compare as their values do. -/
theorem amount_lt_iff {a b : Money} (h : a.precision = b.precision) :
    a.amount < b.amount ↔ a.value < b.value := by
  rw [← Int.cast_lt (R := ℚ), amount_eq_value a, amount_eq_value b, h]
  exact mul_lt_mul_iff_left₀ (by positivity)

theorem amount_inj {a b : Money} (h : a.precision = b.precision) :
    a.amount = b.amount ↔ a.value = b.value := by
  rw [← Int.cast_inj (α := ℚ), amount_eq_value a, amount_eq_value b, h]
  exact mul_left_inj' (by positivity)

/-- An amount is known by its value and its precision. -/
theorem eq_of_value {a b : Money} (hprecision : a.precision = b.precision)
    (hvalue : a.value = b.value) : a = b := by
  have hamount := (amount_inj hprecision).mpr hvalue
  cases a
  cases b
  simp_all only

theorem less_iff (a b : Money) : less a b = true ↔ a.value < b.value := by
  rw [← (value_align a b).1, ← (value_align a b).2, ← amount_lt_iff (align_precision a b)]
  exact decide_eq_true_iff

theorem same_iff (a b : Money) : same a b = true ↔ a.value = b.value := by
  rw [← (value_align a b).1, ← (value_align a b).2, ← amount_inj (align_precision a b)]
  exact beq_iff_eq

end Allowance.Money
