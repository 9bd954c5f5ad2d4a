import Allowance.Proofs.Number.Context

/-!
# Normal forms of decimals

A decimal is normal if its coefficient does not end in a zero. Taking off the zeros at its end makes
every decimal normal and keeps its value, and a normal decimal is known by its sign and its value.
-/

namespace Allowance.Number

/-- The number of zeros at the end of a numeral. -/
def trailingZeros (n : ℕ) : ℕ :=
  ((Nat.toDigits 10 n).reverse.takeWhile (· == '0')).length

theorem trailingZeros_of_not_dvd {n : ℕ} (hn : ¬ 10 ∣ n) : trailingZeros n = 0 := by
  have hlast : (n % 10).digitChar ≠ '0' := by
    rw [Ne, Nat.digitChar_eq_zero]
    omega
  rw [trailingZeros, Nat.toDigits_eq_if (by decide)]
  split
  next hsmall =>
    rw [Nat.mod_eq_of_lt hsmall] at hlast
    simp [hlast]
  next => simp [hlast]

theorem trailingZeros_mul_ten {n : ℕ} (hn : n ≠ 0) :
    trailingZeros (n * 10) = trailingZeros n + 1 := by
  have hlarge : 10 ≤ n * 10 := by omega
  rw [trailingZeros, Nat.toDigits_of_base_le (by decide) hlarge, Nat.mul_mod_left,
    Nat.mul_div_cancel n (by decide)]
  simp [trailingZeros]

/-- What is left of a number without the zeros at its end. -/
theorem exists_of_trailingZeros {n : ℕ} (hn : n ≠ 0) :
    ∃ core, n = core * tenPow (trailingZeros n) ∧ ¬ 10 ∣ core := by
  induction n using Nat.strong_induction_on with
  | h n ih =>
    by_cases hdvd : 10 ∣ n
    · obtain ⟨m, rfl⟩ := hdvd
      have hm : m ≠ 0 := by omega
      obtain ⟨core, hcore, hlast⟩ := ih m (by omega) hm
      refine ⟨core, ?_, hlast⟩
      rw [Nat.mul_comm 10 m, trailingZeros_mul_ten hm, tenPow_succ, ← Nat.mul_assoc, ← hcore]
    · exact ⟨n, by rw [trailingZeros_of_not_dvd hdvd, tenPow_zero, Nat.mul_one], hdvd⟩

namespace Decimal

/-- A coefficient without a zero at its end, or a plain zero. -/
def IsNormal (d : Decimal) : Prop :=
  (d.coefficient = 0 ∧ d.exponent = 0) ∨ ¬ 10 ∣ d.coefficient

variable {a b d : Decimal}

theorem normalize_of_zero (hd : d.coefficient = 0) : d.normalize = ⟨d.negative, 0, 0⟩ := by
  rw [normalize, if_pos hd]

/-- The zeros at the end of a coefficient go into the exponent. -/
theorem exists_normalize (hd : d.coefficient ≠ 0) :
    ∃ core zeros : ℕ, ¬ 10 ∣ core ∧ d.coefficient = core * tenPow zeros ∧
      d.normalize = ⟨d.negative, core, d.exponent + zeros⟩ := by
  obtain ⟨core, hcore, hlast⟩ := exists_of_trailingZeros hd
  refine ⟨core, trailingZeros d.coefficient, hlast, hcore, ?_⟩
  have hpower : 0 < tenPow (trailingZeros d.coefficient) := Nat.pow_pos (by decide)
  have hquotient : d.coefficient / tenPow (trailingZeros d.coefficient) = core :=
    Nat.div_eq_of_eq_mul_left hpower hcore
  rw [normalize, if_neg hd]
  change (⟨d.negative, d.coefficient / tenPow (trailingZeros d.coefficient), _⟩ : Decimal) = _
  rw [hquotient]
  rfl

theorem isNormal_normalize (d : Decimal) : d.normalize.IsNormal := by
  by_cases hd : d.coefficient = 0
  · rw [normalize_of_zero hd]
    exact .inl ⟨rfl, rfl⟩
  · obtain ⟨core, zeros, hlast, -, hnormalize⟩ := exists_normalize hd
    rw [hnormalize]
    exact .inr hlast

theorem negative_normalize (d : Decimal) : d.normalize.negative = d.negative := by
  rw [normalize]
  split <;> rfl

theorem value_normalize (d : Decimal) : d.normalize.value = d.value := by
  by_cases hd : d.coefficient = 0
  · rw [normalize_of_zero hd, value_of_zero rfl, value_of_zero hd]
  · obtain ⟨core, zeros, -, hcoefficient, hnormalize⟩ := exists_normalize hd
    have hshift : (10 : ℚ) ^ (d.exponent + zeros) = tenPow zeros * 10 ^ d.exponent := by
      rw [zpow_add₀ (by norm_num), zpow_natCast, tenPow_eq_pow, mul_comm]
    rw [hnormalize, value, value, signed, signed, hcoefficient]
    dsimp only
    rw [hshift]
    split <;> push_cast <;> ring

/-- Coefficients of one value at different exponents: the one at the lower exponent ends in a
zero. -/
theorem ten_dvd_of_value_eq {m n : ℕ} {low high : ℤ} (hlt : low < high)
    (h : (m : ℚ) * 10 ^ low = n * 10 ^ high) : 10 ∣ m := by
  obtain ⟨count, hcount⟩ := Int.le.dest (Int.add_one_le_of_lt hlt)
  have hpos : (10 : ℚ) ^ low ≠ 0 := zpow_ne_zero _ (by norm_num)
  have hm : (m : ℚ) = n * 10 ^ (1 + count) := by
    apply mul_right_cancel₀ hpos
    rw [h, ← hcount, add_assoc, zpow_add₀ (by norm_num), ← Nat.cast_one (R := ℤ), ← Nat.cast_add,
      zpow_natCast]
    ring
  have hnat : m = n * 10 ^ (1 + count) := by exact_mod_cast hm
  rw [hnat]
  exact Dvd.dvd.mul_left (dvd_pow_self 10 (by omega)) n

theorem IsNormal.exponent_eq_zero (h : d.IsNormal) (hd : d.coefficient = 0) : d.exponent = 0 := by
  rcases h with ⟨-, hexponent⟩ | hlast
  · exact hexponent
  · exact absurd (hd ▸ dvd_zero 10) hlast

/-- No decimal of the same size has a larger exponent than a normal one. -/
theorem IsNormal.exponent_le (ha : a.IsNormal) (hb : b.IsNormal)
    (h : (a.coefficient : ℚ) * 10 ^ a.exponent = b.coefficient * 10 ^ b.exponent) :
    b.exponent ≤ a.exponent := by
  by_contra hlt
  rcases ha with ⟨hcoefficient, hexponent⟩ | hlast
  · have hzero : b.coefficient = 0 := by
      rw [hcoefficient, Nat.cast_zero, zero_mul, eq_comm, mul_eq_zero,
        or_iff_left (zpow_ne_zero _ (by norm_num)), Nat.cast_eq_zero] at h
      exact h
    rw [hexponent, hb.exponent_eq_zero hzero] at hlt
    exact hlt le_rfl
  · exact hlast (ten_dvd_of_value_eq (not_le.mp hlt) h)

/-- A normal decimal is known by its sign and its value. -/
theorem IsNormal.eq_of_value_eq (ha : a.IsNormal) (hb : b.IsNormal)
    (hnegative : a.negative = b.negative) (hvalue : a.value = b.value) : a = b := by
  have habs : (a.coefficient : ℚ) * 10 ^ a.exponent = b.coefficient * 10 ^ b.exponent := by
    rw [← abs_value, ← abs_value, hvalue]
  have hexponent : a.exponent = b.exponent :=
    le_antisymm (hb.exponent_le ha habs.symm) (ha.exponent_le hb habs)
  have hcoefficient : a.coefficient = b.coefficient := by
    rw [hexponent, mul_left_inj' (zpow_ne_zero _ (by norm_num))] at habs
    exact_mod_cast habs
  obtain ⟨_, _, _⟩ := a
  obtain ⟨_, _, _⟩ := b
  simp_all only

/-- The context keeps the sign, also that of a zero. -/
theorem negative_of_fit {r : Decimal} (h : d.fit = .ok r) : r.negative = d.negative := by
  unfold fit at h
  dsimp only at h
  split at h
  next =>
    cases h
    rfl
  -- The last digits are dropped with or without a carry.
  next =>
    split at h
    all_goals
      split at h
      next => cases h
      next =>
        cases h
        rfl

end Decimal

end Allowance.Number
