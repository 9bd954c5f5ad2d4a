import Allowance.Money.Operand
import Allowance.Proofs.Money.Decimal
import Allowance.Proofs.Number.Normal

/-!
# Keys of amounts

The key of an amount in a hash table is the normal decimal of what the context keeps of its value.
Both depend on the value alone, however many zeros it is written with, so that equal amounts have
one key. Different amounts of few digits have different keys; only rounding may give them one.
-/

namespace Allowance.Money

open Number Decimal

/-- The decimal without trailing zeros that the context keeps of a value. -/
structure IsKey (m : Money) (key : Decimal) : Prop where
  normal : key.IsNormal
  negative : key.negative = decide (m.value < 0)
  kept : ∃ place, IsKept m.value key.value place

variable {a b m : Money} {x y key : Decimal}

/-- An amount that is not out of all proportion has a key. -/
theorem exists_isKey (hprecision : m.precision ≤ decimalPlaces)
    (hvalue : |m.value| < 10 ^ maxExponent) : ∃ key, m.hashKey = .ok key ∧ m.IsKey key := by
  obtain ⟨r, place, hkept, hfit⟩ := fit_cases m.exactDecimal
  rw [value_exactDecimal] at hkept
  have hlimit := pow_le_contextLimit (maxExponent + 1 - contextDigits)
  rw [sub_add_cancel, add_sub_cancel_right] at hlimit
  have hsmall : ¬ 10 ^ (maxExponent + 1) ≤ |r.value| :=
    hkept.overflows_iff.not.mpr (not_le.mpr (hvalue.trans_le hlimit))
  rw [if_neg hsmall] at hfit
  refine ⟨r.normalize, ?_, r.isNormal_normalize, ?_, place, ?_⟩
  · rw [hashKey, toDecimal_eq_fit hprecision, hfit]
    rfl
  · rw [negative_normalize, negative_of_fit hfit, exactDecimal, decide_eq_decide, ← not_le,
      ← not_le, value_nonneg_iff]
  · rw [value_normalize]
    exact hkept

/-- A key depends on the value of the amount only. -/
theorem IsKey.unique (hx : a.IsKey x) (hy : b.IsKey y) (h : a.value = b.value) : x = y := by
  obtain ⟨place, hkept⟩ := hx.kept
  obtain ⟨place', hkept'⟩ := hy.kept
  rw [h] at hkept
  refine hx.normal.eq_of_value_eq hy.normal ?_ (hkept.unique hkept')
  rw [hx.negative, hy.negative, h]

/-- Nothing is rounded in a value of few digits. -/
theorem IsKey.value_eq (h : m.IsKey key) (hprecision : minExponent ≤ -m.precision)
    (hdigits : HasContextDigits m.value) : key.value = m.value := by
  obtain ⟨place, hkept⟩ := h.kept
  have hplaces : IsMultiple m.value (-m.precision) :=
    ⟨m.amount, by rw [value, zpow_neg, zpow_natCast, div_eq_mul_inv]⟩
  exact (hkept.eq_of_hasContextDigits hdigits (hplaces.of_le hprecision)).symm

/-- Equal amounts have one key, and so one hash, even where the key is rounded. Two amounts of few
digits that are not equal have keys of different values. -/
theorem hashKey_respects_value (haPrecision : a.precision ≤ 1000) (hbPrecision : b.precision ≤ 1000)
    (ha : a.amount.natAbs < tenPow 1000) (hb : b.amount.natAbs < tenPow 1000) :
    ∃ x y, (a.hashKey = .ok x ∧ a.IsKey x) ∧ (b.hashKey = .ok y ∧ b.IsKey y) ∧
      (a.same b = true → x = y ∧ a.sameHash b = .ok true) ∧
      (HasContextDigits a.value → HasContextDigits b.value → a.same b = false →
        x.value ≠ y.value) := by
  have hplaces : (1000 : Int) ≤ decimalPlaces := by decide
  have hleast : minExponent ≤ -1000 := by decide
  have hlimit : (10 : ℚ) ^ 1000 ≤ 10 ^ maxExponent := by
    rw [← zpow_natCast]
    exact zpow_le_zpow_right₀ (by norm_num) (by decide)
  obtain ⟨x, hx, hxKey⟩ := exists_isKey (by omega) ((abs_value_lt ha).trans_le hlimit)
  obtain ⟨y, hy, hyKey⟩ := exists_isKey (by omega) ((abs_value_lt hb).trans_le hlimit)
  refine ⟨x, y, ⟨hx, hxKey⟩, ⟨hy, hyKey⟩, fun hsame => ?_, fun haDigits hbDigits hdiffer => ?_⟩
  · obtain rfl := hxKey.unique hyKey ((same_iff a b).mp hsame)
    refine ⟨rfl, ?_⟩
    rw [sameHash, hx, hy]
    exact congrArg Except.ok (beq_self_eq_true _)
  · rw [hxKey.value_eq (by omega) haDigits, hyKey.value_eq (by omega) hbDigits, Ne, ← same_iff,
      hdiffer]
    exact Bool.false_ne_true

/-- An amount whose last digit is rounded, written in two ways, and two short amounts. -/
theorem hashKey_longTwin :
    let long : Money := ⟨12345678901234567890123456785, 2⟩
    let twin : Money := ⟨12345678901234567890123456785000, 5⟩
    let half : Money := ⟨5 * tenPow 30, 31⟩
    let small : Money := ⟨5, 2⟩
    (long.same twin = true ∧ long.hashKey = twin.hashKey ∧ long.sameHash twin = .ok true) ∧
      ∃ x y, half.hashKey = .ok x ∧ small.hashKey = .ok y ∧ x.value ≠ y.value := by
  intro long twin half small
  constructor
  · have hsame : long.same twin = true := by decide
    obtain ⟨x, y, ⟨hx, -⟩, ⟨hy, -⟩, hequal, -⟩ := hashKey_respects_value (a := long) (b := twin)
      (by decide) (by decide) (by decide +kernel) (by decide +kernel)
    obtain ⟨rfl, hhash⟩ := hequal hsame
    exact ⟨hsame, hx.trans hy.symm, hhash⟩
  · obtain ⟨x, y, ⟨hx, -⟩, ⟨hy, -⟩, -, hdiffer⟩ := hashKey_respects_value (a := half) (b := small)
      (by decide) (by decide) (by decide +kernel) (by decide +kernel)
    have hfive : |((5 : ℤ) : ℚ)| < 10 ^ contextDigits := by norm_num [contextDigits]
    refine ⟨x, y, hx, hy, hdiffer ⟨5, -1, hfive, ?_⟩ ⟨5, -2, hfive, ?_⟩ (by decide)⟩
    · norm_num [half, value, tenPow_eq_pow]
    · norm_num [small, value]

-- Of two amounts that are rounded, different ones may have one key.
example :
    hashKey ⟨12345678901234567890123456784, 2⟩ =
        .ok ⟨false, 1234567890123456789012345678, -1⟩ ∧
      hashKey ⟨12345678901234567890123456785, 2⟩ =
        .ok ⟨false, 1234567890123456789012345678, -1⟩ :=
  ⟨by rfl, by rfl⟩

end Allowance.Money
