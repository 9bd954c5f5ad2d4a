import Allowance.Money.Scale
import Allowance.Proofs.Failure
import Allowance.Proofs.Money.Value

/-!
# Money in minor units

Which whole number of minor units, if any, has the value of an amount at a precision. Comparing the
amount with others of that precision is comparing this number.
-/

namespace Allowance.Money

open Number

/-- The value of an amount is a whole number of minor units at a precision. -/
def HasUnits (m : Money) (precision : Nat) (units : Int) : Prop :=
  m.amount * tenPow precision = units * tenPow m.precision

instance (m : Money) (precision : Nat) (units : Int) : Decidable (m.HasUnits precision units) := by
  unfold HasUnits
  infer_instance

variable {m : Money} {precision : Nat} {units : Int}

/-- At a precision that is not smaller an amount always has minor units. -/
theorem hasUnits_of_le {extra : Nat} (hprecision : precision = m.precision + extra) :
    m.HasUnits precision units ↔ units = m.amount * tenPow extra := by
  unfold HasUnits
  rw [hprecision, tenPow_add, Nat.cast_mul]
  have hpos := tenPow_pos m.precision
  constructor
  · intro h
    apply Int.eq_of_mul_eq_mul_right (Int.ne_of_gt hpos)
    rw [← h]
    ring
  · rintro rfl
    ring

/-- At a smaller precision an amount has minor units if it ends in zeros. -/
theorem hasUnits_of_ge {extra : Nat} (hprecision : m.precision = precision + extra) :
    m.HasUnits precision units ↔ m.amount = units * tenPow extra := by
  unfold HasUnits
  rw [hprecision, tenPow_add, Nat.cast_mul]
  have hpos := tenPow_pos precision
  constructor
  · intro h
    apply Int.eq_of_mul_eq_mul_right (Int.ne_of_gt hpos)
    rw [h]
    ring
  · intro h
    rw [h]
    ring

theorem minorUnits_eq_ok : m.minorUnits precision = .ok units ↔ m.HasUnits precision units := by
  unfold minorUnits
  split
  next hle =>
    obtain ⟨extra, hextra⟩ := Nat.le.dest (Int.ofNat_le.mp hle)
    have hdigits : ((precision : Int) - m.precision).toNat = extra := by omega
    rw [hdigits, hasUnits_of_le hextra.symm, Except.ok.injEq]
    exact eq_comm
  next hgt =>
    obtain ⟨extra, hextra⟩ := Nat.le.dest (Nat.le_of_lt (Int.ofNat_lt.mp (Int.not_le.mp hgt)))
    have hdigits : ((m.precision : Int) - precision).toNat = extra := by omega
    rw [hdigits, hasUnits_of_ge hextra.symm]
    have hpos := tenPow_pos extra
    dsimp only
    split
    next hzero =>
      rw [Except.ok.injEq]
      constructor
      · rintro rfl
        exact (Int.ediv_mul_cancel (Int.dvd_of_emod_eq_zero hzero)).symm
      · intro h
        rw [h, Int.mul_ediv_cancel _ (Int.ne_of_gt hpos)]
    next hrest =>
      simp only [reduceCtorEq, false_iff]
      intro h
      exact hrest (by rw [h, Int.mul_emod_left])

theorem minorUnits_eq_error (hnone : ∀ units, ¬ m.HasUnits precision units) :
    m.minorUnits precision = .error (.ofRejection (.tooPrecise m precision)) := by
  have hfail (units : Int) : m.minorUnits precision ≠ .ok units :=
    fun h => hnone units (minorUnits_eq_ok.mp h)
  unfold minorUnits at hfail ⊢
  split at hfail
  next => exact absurd rfl (hfail _)
  next hgt =>
    rw [if_neg hgt]
    dsimp only at hfail ⊢
    split at hfail
    next => exact absurd rfl (hfail _)
    next hrest => rw [if_neg hrest]

/-! ## Comparing -/

theorem hasUnits_iff_value : m.HasUnits precision units ↔ m.value = value ⟨units, precision⟩ := by
  rw [value, value, div_eq_div_iff (by positivity) (by positivity), ← tenPow_eq_pow,
    ← tenPow_eq_pow]
  norm_cast

theorem less_of_hasUnits (h : m.HasUnits precision units) (amount : Int) :
    less ⟨amount, precision⟩ m = decide (amount < units) := by
  have hamounts := amount_lt_iff (a := ⟨amount, precision⟩) (b := ⟨units, precision⟩) rfl
  rw [Bool.eq_iff_iff, less_iff, hasUnits_iff_value.mp h, decide_eq_true_iff]
  exact hamounts.symm

theorem hasUnits_less (h : m.HasUnits precision units) (amount : Int) :
    less m ⟨amount, precision⟩ = decide (units < amount) := by
  have hamounts := amount_lt_iff (a := ⟨units, precision⟩) (b := ⟨amount, precision⟩) rfl
  rw [Bool.eq_iff_iff, less_iff, hasUnits_iff_value.mp h, decide_eq_true_iff]
  exact hamounts.symm

end Allowance.Money
