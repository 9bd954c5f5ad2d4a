import Mathlib.Algebra.Order.Field.Rat
import Allowance.Number.Power

/-!
# Powers of ten

The powers of ten that scale minor units and coefficients, as integers and as rational numbers.
-/

namespace Allowance.Number

theorem tenPow_pos (n : Nat) : (0 : Int) < tenPow n :=
  Int.natCast_pos.mpr (Nat.pow_pos (by decide))

theorem tenPow_add (m n : Nat) : tenPow (m + n) = tenPow m * tenPow n :=
  Nat.pow_add 10 m n

theorem tenPow_eq_pow (n : Nat) : (tenPow n : ℚ) = 10 ^ n :=
  Nat.cast_pow 10 n

end Allowance.Number
