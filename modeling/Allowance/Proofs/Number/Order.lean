import Mathlib.Algebra.Order.Field.Power
import Mathlib.Algebra.Order.Field.Rat
import Mathlib.Tactic.Ring
import Allowance.Number.Decimal.Key
import Allowance.Proofs.Number.Decimal
import Allowance.Proofs.Number.Power

/-!
# The order of decimals

Decimals are compared by the rational numbers that they stand for, however they are written.
-/

namespace Allowance.Number

namespace Decimal

/-- The number that a decimal stands for. -/
def value (d : Decimal) : ℚ :=
  d.signed * 10 ^ d.exponent

variable {a b d : Decimal}

/-- A decimal written at a lower exponent. -/
theorem value_eq_shifted {low : Int} (hlow : low ≤ d.exponent) :
    d.value = (d.signed * tenPow (d.exponent - low).toNat : Int) * 10 ^ low := by
  have hexponent : d.exponent = (d.exponent - low).toNat + low := by omega
  have hsplit : (10 : ℚ) ^ d.exponent = 10 ^ (d.exponent - low).toNat * 10 ^ low := by
    conv_lhs => rw [hexponent]
    rw [zpow_add₀ (by norm_num), zpow_natCast]
  rw [value, hsplit, Int.cast_mul, Int.cast_natCast, tenPow_eq_pow, mul_assoc]

theorem less_iff : less a b = true ↔ a.value < b.value := by
  have hpos : (0 : ℚ) < 10 ^ min a.exponent b.exponent := zpow_pos (by norm_num) _
  rw [value_eq_shifted (d := a) (Int.min_le_left _ _),
    value_eq_shifted (d := b) (Int.min_le_right _ _), mul_lt_mul_iff_left₀ hpos, Int.cast_lt]
  exact decide_eq_true_iff

theorem abs_signed : |(d.signed : ℚ)| = d.coefficient := by
  rw [signed]
  split <;> simp

theorem abs_value : |d.value| = d.coefficient * 10 ^ d.exponent := by
  have hpos : (0 : ℚ) < 10 ^ d.exponent := zpow_pos (by norm_num) _
  rw [value, abs_mul, abs_of_pos hpos, abs_signed]

end Decimal

end Allowance.Number
