import Allowance.Money.Reading
import Allowance.Proofs.Money.Value
import Allowance.Proofs.Number.Context

/-!
# Money as a decimal

Which amounts have a decimal in the context, and which of these are not rounded. An amount of few
digits after the point has one unless its value is out of all proportion.
-/

namespace Allowance.Money

open Number

/-- More digits after the point than this are beyond what the context shifts by. -/
def decimalPlaces : Int := 2 * (Decimal.maxExponent + Decimal.contextDigits)

/-- An amount that the context represents with all its digits. -/
def IsShort (m : Money) : Prop :=
  m.amount.natAbs < tenPow Decimal.contextDigits

instance (m : Money) : Decidable m.IsShort := by
  unfold IsShort
  infer_instance

variable {m : Money}

/-- The decimal of all digits of an amount. -/
def exactDecimal (m : Money) : Decimal :=
  ⟨m.amount < 0, m.amount.natAbs, -m.precision⟩

theorem value_exactDecimal : m.exactDecimal.value = m.value := by
  have hsigned : m.exactDecimal.signed = m.amount := by
    simp only [exactDecimal, Decimal.signed, decide_eq_true_eq]
    split <;> omega
  rw [Decimal.value, hsigned, exactDecimal, zpow_neg, zpow_natCast, value, div_eq_mul_inv]

theorem toDecimal_eq_fit (hprecision : m.precision ≤ decimalPlaces) :
    m.toDecimal = Failure.ofSignal m.exactDecimal.fit := by
  have hshift : ¬ decimalPlaces < ((-m.precision : Int).natAbs : Int) := by omega
  rw [toDecimal, Decimal.scale, ← decimalPlaces, if_neg hshift]
  simp only [Decimal.ofInt, Int.zero_add, exactDecimal]

/-- Too many digits after the point leave no decimal, of whatever value. -/
theorem toDecimal_of_decimalPlaces_lt (h : decimalPlaces < m.precision) :
    m.toDecimal = .error (.decimal .invalidOperation) := by
  have hshift : decimalPlaces < ((-m.precision : Int).natAbs : Int) := by omega
  rw [toDecimal, Decimal.scale, ← decimalPlaces, if_pos hshift]
  rfl

/-- There are two reasons for an amount to have no decimal: its digits and its size. -/
theorem toDecimal_eq_error {failure : Failure} (h : m.toDecimal = .error failure) :
    (failure = .decimal .invalidOperation ∧ decimalPlaces < m.precision) ∨
      (failure = .decimal .overflow ∧ 10 ^ Decimal.maxExponent ≤ |m.value|) := by
  by_cases hplaces : decimalPlaces < m.precision
  · rw [toDecimal_of_decimalPlaces_lt hplaces] at h
    exact .inl ⟨(Except.error.inj h).symm, hplaces⟩
  · rw [toDecimal_eq_fit (Int.not_lt.mp hplaces)] at h
    cases hfit : m.exactDecimal.fit with
    | ok d =>
        rw [hfit] at h
        cases h
    | error signal =>
        obtain ⟨rfl, hlarge⟩ := Decimal.fit_eq_error hfit
        rw [value_exactDecimal] at hlarge
        rw [hfit] at h
        exact .inr ⟨(Except.error.inj h).symm, hlarge⟩

theorem abs_value_lt {digits : Nat} (h : m.amount.natAbs < tenPow digits) :
    |m.value| < 10 ^ digits := by
  have hamount : |(m.amount : ℚ)| < 10 ^ digits := by
    rw [← Int.cast_abs, Int.abs_eq_natAbs, Int.cast_natCast, ← tenPow_eq_pow, Nat.cast_lt]
    exact h
  calc |m.value| ≤ |(m.amount : ℚ)| := by
        rw [value, abs_div, abs_of_pos (by positivity : (0 : ℚ) < 10 ^ m.precision)]
        exact div_le_self (abs_nonneg _) (one_le_pow₀ (by norm_num))
    _ < 10 ^ digits := hamount

/-- An amount of few digits is far from being too large. -/
theorem abs_value_lt_of_isShort (h : m.IsShort) : |m.value| < 10 ^ Decimal.maxExponent := by
  refine (abs_value_lt h).trans_le ?_
  rw [← zpow_natCast]
  exact zpow_le_zpow_right₀ (by norm_num) (by decide)

end Allowance.Money
