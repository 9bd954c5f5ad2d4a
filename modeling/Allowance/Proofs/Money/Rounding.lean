import Allowance.Money.Reading
import Allowance.Proofs.Number.Context

/-!
# Rounding when an amount is read

The digits of a decimal beyond the precision of an amount are rounded away from zero at a half, but
not before the context has rounded the decimal to the digits that it keeps. So an amount is that of
its text as long as the first rounding is exact or does not meet a half.
-/

namespace Allowance.Money

open Number

/-- The value of a decimal in minor units, with all its digits. -/
def exactUnits (d : Decimal) (precision : ℕ) : ℚ :=
  d.value * 10 ^ precision

variable {d : Decimal} {precision : ℕ}

theorem exactUnits_eq (d : Decimal) (precision : ℕ) :
    exactUnits d precision = d.signed * 10 ^ (d.exponent + precision) := by
  rw [exactUnits, Decimal.value, zpow_add₀ (by norm_num), zpow_natCast, mul_assoc]

/-- What a decimal is in minor units is kept by the context, and what is kept is rounded to a whole
number, unless it has too many digits for the context or for a whole number of it. -/
theorem ofDecimal_cases (d : Decimal) (hprecision : precision ≤ Decimal.maxExponent) :
    ∃ y place, Decimal.IsKept (exactUnits d precision) y place ∧
      if 10 ^ (Decimal.maxExponent + 1) ≤ |y| then
        ofDecimal d precision = .error (.decimal .overflow)
      else if 10 ^ Decimal.contextDigits ≤ |y| then
        ofDecimal d precision = .error (.decimal .invalidOperation)
      else
        ∃ amount, ofDecimal d precision = .ok ⟨amount, precision⟩ ∧ IsNearest y amount := by
  obtain ⟨r, place, hkept, hfit⟩ := Decimal.fit_cases { d with exponent := d.exponent + precision }
  have hvalue : Decimal.value { d with exponent := d.exponent + precision } =
      exactUnits d precision := by
    rw [exactUnits_eq]
    rfl
  have hscaled : d.timesPowerOfTen precision =
      if 10 ^ (Decimal.maxExponent + 1) ≤ |r.value| then .error .overflow else .ok r := by
    have hleast : ¬ (precision : ℤ) < Decimal.minExponent := by
      have : Decimal.minExponent ≤ 0 := by decide
      omega
    rw [Decimal.timesPowerOfTen, if_neg (not_lt.mpr hprecision), if_neg hleast, hfit]
  have hwhole := Decimal.toWhole_cases r
  rw [hvalue] at hkept
  refine ⟨r.value, place, hkept, ?_⟩
  split
  next hlarge =>
    rw [if_pos hlarge] at hscaled
    rw [ofDecimal, hscaled]
    rfl
  next hsmall =>
    rw [if_neg hsmall] at hscaled
    split
    next hlarge =>
      rw [if_pos hlarge] at hwhole
      simp only [ofDecimal, hscaled, Failure.ofSignal, bind, Except.bind, hwhole]
    next hfew =>
      rw [if_neg hfew] at hwhole
      obtain ⟨amount, hamount, hnearest⟩ := hwhole
      refine ⟨amount, ?_, hnearest⟩
      simp only [ofDecimal, hscaled, Failure.ofSignal, bind, Except.bind, hamount]
      rfl

theorem ofDecimal_of_lt (d : Decimal) (hprecision : Decimal.maxExponent < precision) :
    ofDecimal d precision = .error (.decimal .overflow) := by
  rw [ofDecimal, Decimal.timesPowerOfTen, if_pos hprecision]
  rfl

/-- An amount that is read is the whole number nearest to the one number that the context keeps of
the text's value in minor units. It is nearest to this value itself unless the context changes it
and the larger one of both is a half. This never happens to a decimal that has no more digits than
the context. -/
theorem ofText_isNearest_iff {s : String} {m : Money}
    (hs : Decimal.ofText? (withoutSeparators s) = some d) (h : ofText s precision = .ok m) :
    m.precision = precision ∧
      ∃ y, (∀ other, (∃ place, Decimal.IsKept (exactUnits d precision) other place) ↔ other = y) ∧
        IsNearest y m.amount ∧
        (IsNearest (exactUnits d precision) m.amount ↔
          exactUnits d precision = y ∨ ¬ IsHalf (max |exactUnits d precision| |y|)) ∧
        (d.coefficient < tenPow Decimal.contextDigits →
          IsNearest (exactUnits d precision) m.amount) := by
  rw [ofText, hs] at h
  change ofDecimal d precision = .ok m at h
  have hprecision : precision ≤ Decimal.maxExponent := by
    by_contra hlt
    rw [ofDecimal_of_lt d (not_le.mp hlt)] at h
    cases h
  obtain ⟨y, place, hkept, hcases⟩ := ofDecimal_cases d hprecision
  rw [h] at hcases
  split at hcases
  next => cases hcases
  next =>
    split at hcases
    next => cases hcases
    next hsmall =>
      obtain ⟨amount, hm, hnearest⟩ := hcases
      cases hm
      have honce := hkept.isNearest_iff (not_le.mp hsmall) hnearest
      refine ⟨rfl, y, ?_, hnearest, honce, fun hshort => honce.mpr ?_⟩
      · intro other
        constructor
        · rintro ⟨place', hother⟩
          exact hother.unique hkept
        · rintro rfl
          exact ⟨place, hkept⟩
      · refine hkept.eq_or_not_isHalf (exactUnits_eq d precision) ?_
        rw [Decimal.abs_signed, ← tenPow_eq_pow]
        exact Nat.cast_lt.mpr hshort

/-- A negative tie, among the digits of a separated text. -/
theorem isNearest_ofText_tie :
    Decimal.ofText? (withoutSeparators "-1,234.565") = some ⟨true, 1234565, -3⟩ ∧
      ofText "-1,234.565" (2 : ℕ) = .ok ⟨-123457, 2⟩ ∧
      IsNearest (exactUnits ⟨true, 1234565, -3⟩ 2) (-123457) := by
  have hs : Decimal.ofText? (withoutSeparators "-1,234.565") = some ⟨true, 1234565, -3⟩ := by rfl
  have hm : ofText "-1,234.565" (2 : ℕ) = .ok ⟨-123457, 2⟩ := by rfl
  obtain ⟨_, _, _, _, _, hshort⟩ := ofText_isNearest_iff hs hm
  exact ⟨hs, hm, hshort (by decide)⟩

/-- A number just below a half, of more digits than the context keeps, is rounded up to the half
first and then away from zero. -/
theorem not_isNearest_almostHalf :
    let d : Decimal := ⟨false, 49999999999999999999999999999, -29⟩
    Decimal.ofText? (withoutSeparators "0.49999999999999999999999999999") = some d ∧
      ofText "0.49999999999999999999999999999" (0 : ℕ) = .ok ⟨1, 0⟩ ∧
      IsNearest (exactUnits d 0) 0 ∧ ¬ IsNearest (exactUnits d 0) 1 := by
  intro d
  have hunits : exactUnits d 0 = 49999999999999999999999999999 / 10 ^ 29 := by
    norm_num [exactUnits, d, Decimal.value, Decimal.signed]
  have hnearest : IsNearest (exactUnits d 0) 0 := by
    apply IsNearest.of_close
    rw [hunits]
    norm_num [abs_of_pos]
  refine ⟨by rfl, by rfl, hnearest, ?_⟩
  intro hone
  cases hone.unique hnearest

-- A tie at the last digit that is kept goes down to an even number.
example : ofText "1000000000000000000000000000.5" (0 : ℕ) = .ok ⟨10 ^ 27, 0⟩ := by rfl

/-! ## Amounts that are too large -/

/-- What has fewer digits than the context in minor units, after rounding, is read. Anything larger
is an invalid operation of the context until it overflows. -/
theorem ofDecimal_outcome (d : Decimal) (hprecision : precision ≤ Decimal.maxExponent) :
    if |exactUnits d precision| < Decimal.contextLimit then
      ∃ amount, ofDecimal d precision = .ok ⟨amount, precision⟩
    else
      ofDecimal d precision = .error (.decimal
        (if |exactUnits d precision| < Decimal.overflowLimit then .invalidOperation
        else .overflow)) := by
  obtain ⟨y, place, hkept, hcases⟩ := ofDecimal_cases d hprecision
  simp only [hkept.overflows_iff, hkept.whole_overflows_iff] at hcases
  split
  next hsmall =>
    have hbelow := hsmall.trans_le Decimal.contextLimit_le_overflowLimit
    rw [if_neg (not_le.mpr hbelow), if_neg (not_le.mpr hsmall)] at hcases
    obtain ⟨amount, hamount, _⟩ := hcases
    exact ⟨amount, hamount⟩
  next hlarge =>
    split
    next hbelow =>
      rw [if_neg (not_le.mpr hbelow), if_pos (not_lt.mp hlarge)] at hcases
      exact hcases
    next hbeyond =>
      rw [if_pos (not_lt.mp hbeyond)] at hcases
      exact hcases

end Allowance.Money
