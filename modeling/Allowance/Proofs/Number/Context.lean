import Mathlib.Tactic.Positivity
import Allowance.Proofs.Number.Order
import Allowance.Proofs.Number.Rounding

/-!
# Rounding in the context

What is left of a number that has more digits than the context keeps, and from where on a number is
too large for the context or for the whole numbers of it. Everything is said of the values alone,
however they are written.
-/

namespace Allowance.Number.Decimal

/-! ## Multiples of a place -/

/-- A number without digits behind a place. -/
def IsMultiple (x : ℚ) (place : ℤ) : Prop :=
  ∃ n : ℤ, x = n * 10 ^ place

section Multiples

variable {x : ℚ} {place exponent : ℤ}

theorem IsMultiple.neg (h : IsMultiple x place) : IsMultiple (-x) place := by
  obtain ⟨n, rfl⟩ := h
  exact ⟨-n, by rw [Int.cast_neg, neg_mul]⟩

theorem IsMultiple.of_le (h : IsMultiple x exponent) (hle : place ≤ exponent) :
    IsMultiple x place := by
  obtain ⟨n, rfl⟩ := h
  obtain ⟨count, hcount⟩ := Int.le.dest hle
  refine ⟨n * 10 ^ count, ?_⟩
  rw [← hcount, zpow_add₀ (by norm_num), zpow_natCast]
  push_cast
  ring

theorem isMultiple_zero : IsMultiple 0 place :=
  ⟨0, by simp⟩

theorem isMultiple_pow (hle : place ≤ exponent) : IsMultiple (10 ^ exponent) place :=
  IsMultiple.of_le ⟨1, by simp⟩ hle

/-- A half has one digit behind the point. -/
theorem isMultiple_of_isHalf (h : IsHalf x) (hplace : place < 0) : IsMultiple x place := by
  obtain ⟨k, rfl⟩ := h
  have htenths : IsMultiple ((k : ℚ) + 1 / 2) (-1) := by
    refine ⟨10 * k + 5, ?_⟩
    push_cast
    norm_num
    ring
  exact htenths.of_le (by omega)

end Multiples

/-! ## The digits that are kept -/

/-- What the context keeps of a number: the multiple of a place that is nearest to it, a half going
to the even one. The place is that of the last digit that the context has room for, or the least
place if this is higher. -/
structure IsKept (x y : ℚ) (place : ℤ) : Prop where
  least : minExponent ≤ place
  below : |x| < 10 ^ (place + contextDigits)
  reached : place = minExponent ∨ 10 ^ (place + contextDigits - 1) ≤ |x|
  rounded : ∃ n : ℤ, y = n * 10 ^ place ∧ IsNearestEven (x / 10 ^ place) n

/-- A number that can be written with as many digits as the context keeps. -/
def HasContextDigits (x : ℚ) : Prop :=
  ∃ n exponent : ℤ, |(n : ℚ)| < 10 ^ contextDigits ∧ x = n * 10 ^ exponent

/-- Where rounding leads to one more digit than the context keeps, in units of the last of them. -/
def contextLimit : ℚ :=
  10 ^ contextDigits - 1 / 2

/-- From where on a number has its leading digit beyond the greatest exponent once it is rounded. -/
def overflowLimit : ℚ :=
  contextLimit * 10 ^ (maxExponent + 1 - contextDigits)

theorem contextLimit_le_overflowLimit : contextLimit ≤ overflowLimit := by
  have hpos : 0 ≤ contextLimit := by norm_num [contextLimit, contextDigits]
  exact le_mul_of_one_le_right hpos (one_le_zpow₀ (by norm_num) (by decide))

theorem pow_add_contextDigits (exponent : ℤ) :
    (10 : ℚ) ^ (exponent + contextDigits) = 10 ^ contextDigits * 10 ^ exponent := by
  rw [zpow_add₀ (by norm_num), zpow_natCast, mul_comm]

theorem pow_le_contextLimit (exponent : ℤ) :
    10 ^ (exponent + contextDigits - 1) ≤ contextLimit * 10 ^ exponent := by
  rw [add_sub_assoc, zpow_add₀ (by norm_num), mul_comm]
  refine mul_le_mul_of_nonneg_right ?_ (zpow_nonneg (by norm_num) _)
  norm_num [contextLimit, contextDigits]

namespace IsKept

variable {x y z : ℚ} {place : ℤ}

theorem zero : IsKept 0 0 minExponent := by
  refine ⟨le_rfl, ?_, .inl rfl, 0, ?_, ?_⟩
  · rw [abs_zero]
    exact zpow_pos (by norm_num) _
  · rw [Int.cast_zero, zero_mul]
  · rw [zero_div]
    exact .of_int 0

theorem neg (h : IsKept x y place) : IsKept (-x) (-y) place := by
  obtain ⟨n, rfl, hn⟩ := h.rounded
  refine ⟨h.least, ?_, ?_, -n, ?_, ?_⟩
  · rw [abs_neg]
    exact h.below
  · rw [abs_neg]
    exact h.reached
  · rw [Int.cast_neg, neg_mul]
  · rw [neg_div]
    exact hn.neg

/-- Rounding does not move a number past a multiple of the place. -/
theorem le_of_le (h : IsKept x y place) (hz : IsMultiple z place) (hx : z ≤ x) : z ≤ y := by
  have hpos : (0 : ℚ) < 10 ^ place := zpow_pos (by norm_num) _
  obtain ⟨k, rfl⟩ := hz
  obtain ⟨n, rfl, hn⟩ := h.rounded
  have hkn : k ≤ n := hn.le_of_le ((le_div_iff₀ hpos).mpr hx)
  exact mul_le_mul_of_nonneg_right (by exact_mod_cast hkn) hpos.le

theorem ge_of_ge (h : IsKept x y place) (hz : IsMultiple z place) (hx : x ≤ z) : y ≤ z :=
  neg_le_neg_iff.mp (h.neg.le_of_le hz.neg (neg_le_neg hx))

theorem nonneg (h : IsKept x y place) (hx : 0 ≤ x) : 0 ≤ y :=
  h.le_of_le isMultiple_zero hx

/-- A number without more digits is kept as it is. -/
theorem eq_of_isMultiple (h : IsKept x y place) (hx : IsMultiple x place) : x = y :=
  le_antisymm (h.le_of_le hx le_rfl) (h.ge_of_ge hx le_rfl)

theorem abs (h : IsKept x y place) : IsKept |x| |y| place := by
  rcases le_total 0 x with hx | hx
  · rw [abs_of_nonneg hx, abs_of_nonneg (h.nonneg hx)]
    exact h
  · have hy := h.neg.nonneg (neg_nonneg.mpr hx)
    rw [abs_of_nonpos hx, abs_of_nonpos (neg_nonneg.mp hy)]
    exact h.neg

/-- What is kept depends on the number alone. -/
theorem unique {other : ℚ} {place' : ℤ} (h : IsKept x y place) (h' : IsKept x other place') :
    y = other := by
  have hle {x y z : ℚ} {p q : ℤ} (hp : IsKept x y p) (hq : IsKept x z q) : p ≤ q := by
    by_contra hlt
    have hleast := hq.least
    have hlow := (hp.reached.resolve_left (by omega)).trans_lt hq.below
    rw [zpow_lt_zpow_iff_right₀ (by norm_num)] at hlow
    omega
  obtain rfl : place = place' := le_antisymm (hle h h') (hle h' h)
  obtain ⟨m, rfl, hm⟩ := h.rounded
  obtain ⟨n, rfl, hn⟩ := h'.rounded
  rw [hm.unique hn]

/-- From where on the number that is kept reaches a power of ten. -/
theorem pow_le_iff (h : IsKept x y place) {exponent : ℤ} (hexponent : minExponent ≤ exponent) :
    10 ^ (exponent + contextDigits) ≤ |y| ↔ contextLimit * 10 ^ exponent ≤ |x| := by
  have hdigits : 0 < contextDigits := by decide
  have hpos : (0 : ℚ) < 10 ^ exponent := zpow_pos (by norm_num) _
  rcases lt_trichotomy place exponent with hplace | rfl | hplace
  -- Both numbers end before the digits that the power has.
  · have hbelow : |x| < 10 ^ (exponent + contextDigits - 1) :=
      h.below.trans_le (zpow_le_zpow_right₀ (by norm_num) (by omega))
    have hkept : |y| ≤ 10 ^ (exponent + contextDigits - 1) :=
      h.abs.ge_of_ge (isMultiple_pow (by omega)) hbelow.le
    refine iff_of_false (not_le.mpr (hkept.trans_lt ?_))
      (not_le.mpr (hbelow.trans_le (pow_le_contextLimit exponent)))
    exact zpow_lt_zpow_right₀ (by norm_num) (by omega)
  -- A tie at the limit goes up, to the even number.
  · obtain ⟨n, hy, hn⟩ := h.abs.rounded
    have heven : Even (10 ^ contextDigits : ℤ) := by decide
    have hle := hn.le_iff_of_even heven
    rw [le_div_iff₀ hpos] at hle
    push_cast at hle
    rw [pow_add_contextDigits, hy, mul_le_mul_iff_left₀ hpos, contextLimit, ← hle]
    norm_cast
  -- The first digit of both numbers is beyond the power.
  · have hreached : (10 : ℚ) ^ (exponent + contextDigits) ≤ 10 ^ (place + contextDigits - 1) :=
      zpow_le_zpow_right₀ (by norm_num) (by omega)
    have hlarge : (10 : ℚ) ^ (place + contextDigits - 1) ≤ |x| :=
      h.reached.resolve_left (by omega)
    have hkept : (10 : ℚ) ^ (place + contextDigits - 1) ≤ |y| :=
      h.abs.le_of_le (isMultiple_pow (by omega)) hlarge
    have hlimit : contextLimit * 10 ^ exponent ≤ 10 ^ (exponent + contextDigits) := by
      rw [pow_add_contextDigits, contextLimit]
      exact mul_le_mul_of_nonneg_right (sub_le_self _ (by norm_num)) hpos.le
    exact iff_of_true (hreached.trans hkept) (hlimit.trans (hreached.trans hlarge))

theorem overflows_iff (h : IsKept x y place) :
    10 ^ (maxExponent + 1) ≤ |y| ↔ overflowLimit ≤ |x| := by
  have hle := h.pow_le_iff (by decide : minExponent ≤ maxExponent + 1 - contextDigits)
  rw [sub_add_cancel] at hle
  exact hle

theorem whole_overflows_iff (h : IsKept x y place) :
    10 ^ contextDigits ≤ |y| ↔ contextLimit ≤ |x| := by
  have hle := h.pow_le_iff (by decide : minExponent ≤ 0)
  rw [zero_add, zpow_zero, mul_one, zpow_natCast] at hle
  exact hle

/-! ### Rounding to a whole number afterwards -/

theorem place_le_zero (h : IsKept x y place) (hy : |y| < 10 ^ contextDigits) : place ≤ 0 := by
  by_contra hlt
  have hleast : minExponent ≤ 0 := by decide
  have hdigits : 0 < contextDigits := by decide
  have hkept : (10 : ℚ) ^ (place + contextDigits - 1) ≤ |y| :=
    h.abs.le_of_le (isMultiple_pow (by omega)) (h.reached.resolve_left (by omega))
  have hreached : (10 : ℚ) ^ (contextDigits : ℤ) ≤ 10 ^ (place + contextDigits - 1) :=
    zpow_le_zpow_right₀ (by norm_num) (by omega)
  rw [zpow_natCast] at hreached
  exact (hreached.trans hkept).not_gt hy

/-- If a place is not before the point, no half is passed. -/
theorem le_half (h : IsKept x y place) (hplace : place ≤ 0) (hz : IsHalf z) (hx : x < z) :
    y ≤ z := by
  rcases hplace.lt_or_eq with hlt | rfl
  · exact h.ge_of_ge (isMultiple_of_isHalf hz hlt) hx.le
  · obtain ⟨k, rfl⟩ := hz
    obtain ⟨n, rfl, hn⟩ := h.rounded
    rw [zpow_zero, div_one] at hn
    have hclose := (abs_le.mp hn.close).1
    have hnk : n ≤ k := by
      have hlt : (n : ℚ) < k + 1 := by linarith
      exact Int.lt_add_one_iff.mp (by exact_mod_cast hlt)
    have hcast : (n : ℚ) ≤ k := by exact_mod_cast hnk
    rw [zpow_zero, mul_one]
    linarith

theorem half_le (h : IsKept x y place) (hplace : place ≤ 0) (hz : IsHalf z) (hx : z < x) :
    z ≤ y :=
  neg_le_neg_iff.mp (h.neg.le_half hplace hz.neg (neg_lt_neg hx))

/-- When a number that the context has rounded may be rounded to the nearest whole number as if it
still had all its digits. -/
theorem isNearest_iff (h : IsKept x y place) (hy : |y| < 10 ^ contextDigits) {n : ℤ}
    (hn : IsNearest y n) : IsNearest x n ↔ x = y ∨ ¬ IsHalf (max |x| |y|) := by
  have hplace := h.place_le_zero hy
  refine IsNearest.iff_of_moved ?_ (fun _ => h.le_half hplace) (fun _ => h.half_le hplace) hn
  rcases le_total 0 x with hx | hx
  · exact .inl ⟨hx, h.nonneg hx⟩
  · exact .inr ⟨hx, neg_nonneg.mp (h.neg.nonneg (neg_nonneg.mpr hx))⟩

/-- A number of few digits has none behind the place, unless it is so small that the place is the
least one. -/
theorem place_le_or (h : IsKept x y place) {n exponent : ℤ} (hx : x = n * 10 ^ exponent)
    (hn : |(n : ℚ)| < 10 ^ contextDigits) :
    place ≤ exponent ∨ place = minExponent ∧ |x| < 10 ^ (place + contextDigits - 1) := by
  rcases le_or_gt place exponent with hplace | hplace
  · exact .inl hplace
  · have hpos : (0 : ℚ) < 10 ^ exponent := zpow_pos (by norm_num) _
    have hbelow : |x| < 10 ^ (place + contextDigits - 1) := by
      calc |x| = |(n : ℚ)| * 10 ^ exponent := by rw [hx, abs_mul, abs_of_pos hpos]
        _ < 10 ^ contextDigits * 10 ^ exponent := mul_lt_mul_of_pos_right hn hpos
        _ = 10 ^ (exponent + contextDigits) := (pow_add_contextDigits exponent).symm
        _ ≤ 10 ^ (place + contextDigits - 1) := zpow_le_zpow_right₀ (by norm_num) (by omega)
    exact .inr ⟨h.reached.resolve_right (not_le.mpr hbelow), hbelow⟩

/-- A number of few digits is kept, unless it is too small to be anywhere near a half. -/
theorem eq_or_not_isHalf (h : IsKept x y place) {n exponent : ℤ} (hx : x = n * 10 ^ exponent)
    (hn : |(n : ℚ)| < 10 ^ contextDigits) : x = y ∨ ¬ IsHalf (max |x| |y|) := by
  rcases h.place_le_or hx hn with hplace | ⟨hleast, hbelow⟩
  · exact .inl (h.eq_of_isMultiple (IsMultiple.of_le ⟨n, hx⟩ hplace))
  · have hdigits : 0 < contextDigits := by decide
    have hkept : |y| ≤ 10 ^ (place + contextDigits - 1) :=
      h.abs.ge_of_ge (isMultiple_pow (by omega)) hbelow.le
    have hsmall : (10 : ℚ) ^ (place + contextDigits - 1) ≤ 10 ^ (-1 : ℤ) :=
      zpow_le_zpow_right₀ (by norm_num) (by rw [hleast]; decide)
    refine .inr fun hhalf => ?_
    have hlarge := hhalf.half_le_abs
    rw [abs_of_nonneg (le_max_of_le_left (abs_nonneg x))] at hlarge
    have htenth := hlarge.trans ((max_le hbelow.le hkept).trans hsmall)
    norm_num at htenth

/-- A number of few digits is kept, unless it has a digit behind the least place. -/
theorem eq_of_hasContextDigits (h : IsKept x y place) (hx : HasContextDigits x)
    (hleast : IsMultiple x minExponent) : x = y := by
  obtain ⟨n, exponent, hn, hvalue⟩ := hx
  rcases h.place_le_or hvalue hn with hplace | ⟨hplace, -⟩
  · exact h.eq_of_isMultiple (IsMultiple.of_le ⟨n, hvalue⟩ hplace)
  · exact h.eq_of_isMultiple (hplace ▸ hleast)

end IsKept

/-! ## Fitting a decimal -/

variable {d : Decimal}

theorem value_of_zero (hd : d.coefficient = 0) : d.value = 0 := by
  rw [← abs_eq_zero, abs_value, hd, Nat.cast_zero, zero_mul]

theorem le_abs_value (hd : d.coefficient ≠ 0) : 10 ^ d.leading ≤ |d.value| := by
  have hpositive : 0 < Text.digitCount d.coefficient := Nat.length_toDigits_pos
  have hcount : tenPow (d.digits - 1) ≤ d.coefficient := by
    by_contra hlt
    rcases Nat.eq_zero_or_pos (d.digits - 1) with hone | hmore
    · rw [hone, tenPow_zero] at hlt
      omega
    · have := (Text.digitCount_le_iff hmore).mpr (Nat.lt_of_not_le hlt)
      rw [digits] at *
      omega
  have hleading : d.leading = (d.digits - 1 : Nat) + d.exponent := by
    rw [leading, digits] at *
    omega
  rw [abs_value, hleading, zpow_add₀ (by norm_num), zpow_natCast, ← tenPow_eq_pow]
  exact mul_le_mul_of_nonneg_right (Nat.cast_le.mpr hcount) (zpow_nonneg (by norm_num) _)

theorem abs_value_lt (d : Decimal) : |d.value| < 10 ^ (d.leading + 1) := by
  have hpositive : 0 < Text.digitCount d.coefficient := Nat.length_toDigits_pos
  have hcoefficient : d.coefficient < tenPow d.digits :=
    (Text.digitCount_le_iff hpositive).mp le_rfl
  have hleading : d.leading + 1 = (d.digits : ℤ) + d.exponent := by
    rw [leading]
    omega
  rw [abs_value, hleading, zpow_add₀ (by norm_num), zpow_natCast, ← tenPow_eq_pow]
  exact mul_lt_mul_of_pos_right (Nat.cast_lt.mpr hcoefficient) (zpow_pos (by norm_num) _)

/-- The place of the leading digit tells which powers of ten a number reaches. -/
theorem lt_leading_iff (hd : d.coefficient ≠ 0) {exponent : ℤ} :
    exponent < d.leading ↔ 10 ^ (exponent + 1) ≤ |d.value| := by
  constructor
  · intro hlt
    exact le_trans (zpow_le_zpow_right₀ (by norm_num) hlt) (le_abs_value hd)
  · intro hle
    have hlt := hle.trans_lt (abs_value_lt d)
    rw [zpow_lt_zpow_iff_right₀ (by norm_num)] at hlt
    omega

theorem isNearestEven_dropDigits (coefficient count : ℕ) :
    IsNearestEven (coefficient / 10 ^ count) (dropDigits coefficient count) := by
  rw [← tenPow_eq_pow, dropDigits]
  split
  next hall =>
    -- The first digit that is dropped is a zero.
    obtain ⟨rest, rfl⟩ := Nat.exists_eq_add_one_of_ne_zero (Nat.ne_zero_of_lt hall)
    have hpositive : 0 < Text.digitCount coefficient := Nat.length_toDigits_pos
    have hbelow : coefficient < tenPow rest := (Text.digitCount_le_iff (by omega)).mp (by omega)
    have hhalf : 2 * coefficient ≤ tenPow (rest + 1) := by
      rw [tenPow_succ]
      omega
    have hhalf' : 2 * (coefficient : ℚ) ≤ tenPow (rest + 1) := by exact_mod_cast hhalf
    have hpos : (0 : ℚ) < tenPow (rest + 1) := by exact_mod_cast tenPow_pos (rest + 1)
    refine ⟨?_, fun _ => Even.zero⟩
    rw [Int.natCast_zero, Int.cast_zero, sub_zero, abs_of_nonneg (by positivity),
      div_le_iff₀ hpos]
    linarith
  next => exact isNearestEven_divHalfEven _ (Nat.pow_pos (by decide))

/-- Numbers of one sign. -/
theorem isKept_value {negative : Bool} {coefficient rounded : ℕ} {exponent shifted place : ℤ}
    (h : IsKept (coefficient * 10 ^ exponent) (rounded * 10 ^ shifted) place) :
    IsKept (value ⟨negative, coefficient, exponent⟩) (value ⟨negative, rounded, shifted⟩)
      place := by
  cases negative with
  | false => exact h
  | true =>
      simp only [value, signed, if_pos, Int.cast_neg, neg_mul]
      exact h.neg

/-- Dropping the digits that are too many or too far behind the point leaves what is kept. -/
theorem isKept_dropDigits (hd : d.coefficient ≠ 0) {excess : ℕ}
    (hexcess : excess = (max ((d.digits : Int) - contextDigits) (minExponent - d.exponent)).toNat) :
    ∃ place, IsKept d.value
      (value ⟨d.negative, dropDigits d.coefficient excess, d.exponent + excess⟩) place := by
  have hleading : d.leading = d.exponent + d.digits - 1 := rfl
  have habs : |(d.coefficient : ℚ) * 10 ^ d.exponent| = |d.value| := by
    rw [← abs_value, abs_abs]
  obtain ⟨place, hplace⟩ : ∃ place, place = max (d.leading + 1 - contextDigits) minExponent :=
    ⟨_, rfl⟩
  refine ⟨place, isKept_value ⟨by omega, ?_, ?_, ?_⟩⟩
  · rw [habs]
    exact (abs_value_lt d).trans_le (zpow_le_zpow_right₀ (by norm_num) (by omega))
  · rw [habs]
    rcases le_or_gt (d.leading + 1 - contextDigits) minExponent with hsmall | hlarge
    · exact .inl (by omega)
    · refine .inr (le_trans (zpow_le_zpow_right₀ (by norm_num) ?_) (le_abs_value hd))
      omega
  · rcases Nat.eq_zero_or_pos excess with rfl | hpositive
    -- All digits are kept, and there may be room for more.
    · have hmultiple : IsMultiple (d.coefficient * 10 ^ d.exponent) place :=
        IsMultiple.of_le ⟨d.coefficient, by rw [Int.cast_natCast]⟩ (by omega)
      obtain ⟨n, hn⟩ := hmultiple
      refine ⟨n, ?_, ?_⟩
      · rw [dropDigits_zero, Nat.cast_zero, add_zero, hn]
      · rw [hn, mul_div_cancel_right₀ _ (zpow_ne_zero _ (by norm_num))]
        exact .of_int n
    · have hlast : d.exponent + excess = place := by omega
      have hquotient : (d.coefficient : ℚ) * 10 ^ d.exponent / 10 ^ place =
          d.coefficient / 10 ^ excess := by
        rw [← hlast, zpow_add₀ (by norm_num), zpow_natCast]
        field_simp
      refine ⟨dropDigits d.coefficient excess, ?_, ?_⟩
      · rw [hlast, Int.cast_natCast]
      · rw [hquotient]
        exact isNearestEven_dropDigits _ _

/-- Nothing is left only of digits behind the least place. -/
theorem exponent_of_dropDigits_eq_zero (hd : d.coefficient ≠ 0) {excess : ℕ}
    (hexcess : excess = (max ((d.digits : Int) - contextDigits) (minExponent - d.exponent)).toNat)
    (hnothing : dropDigits d.coefficient excess = 0) : d.exponent + excess = minExponent := by
  have hbelow : d.coefficient < tenPow excess := by
    by_contra hle
    have hcast : (tenPow excess : ℚ) ≤ d.coefficient := by exact_mod_cast Nat.not_lt.mp hle
    have hone : ((1 : ℤ) : ℚ) ≤ d.coefficient / 10 ^ excess := by
      rw [Int.cast_one, one_le_div (by positivity), ← tenPow_eq_pow]
      exact hcast
    have := (isNearestEven_dropDigits d.coefficient excess).le_of_le hone
    omega
  rcases Nat.eq_zero_or_pos excess with rfl | hpositive
  · rw [tenPow_zero] at hbelow
    omega
  · have hdigits : d.digits ≤ excess := (Text.digitCount_le_iff hpositive).mpr hbelow
    have hfew : 0 < contextDigits := by decide
    omega

/-- A power of ten with a zero less in its coefficient. -/
theorem value_carried (negative : Bool) (count : ℕ) (exponent : ℤ) :
    value ⟨negative, tenPow count, exponent + 1⟩ =
      value ⟨negative, tenPow (count + 1), exponent⟩ := by
  have hten : (10 : ℚ) ≠ 0 := by norm_num
  cases negative <;>
    simp only [value, signed, tenPow_succ, zpow_add_one₀ hten] <;> push_cast <;> ring

/-- A decimal is kept as far as its digits go, unless the result has too many places. -/
theorem fit_cases (d : Decimal) : ∃ r place, IsKept d.value (value r) place ∧
    d.fit = if 10 ^ (maxExponent + 1) ≤ |value r| then .error .overflow else .ok r := by
  have hsmall {r : Decimal} (hr : r.value = 0) : ¬ 10 ^ (maxExponent + 1) ≤ |r.value| := by
    rw [hr, abs_zero, not_le]
    exact zpow_pos (by norm_num) _
  by_cases hd : d.coefficient = 0
  · obtain ⟨r, hr⟩ : ∃ r : Decimal, r =
        { d with exponent := max minExponent (min maxExponent d.exponent) } := ⟨_, rfl⟩
    have hzero : r.value = 0 := value_of_zero (hr ▸ hd)
    refine ⟨r, minExponent, ?_, ?_⟩
    · rw [value_of_zero hd, hzero]
      exact .zero
    · rw [fit, if_pos hd, if_neg (hsmall hzero), hr]
  · obtain ⟨excess, hexcess⟩ : ∃ excess, excess =
        (max ((d.digits : Int) - contextDigits) (minExponent - d.exponent)).toNat := ⟨_, rfl⟩
    obtain ⟨place, hkept⟩ := isKept_dropDigits hd hexcess
    rw [fit, if_neg hd]
    simp only [← hexcess]
    by_cases hcarry : dropDigits d.coefficient excess = tenPow contextDigits
    -- One more digit is too many, but it is a zero.
    · rw [if_pos hcarry]
      refine ⟨_, place, ?_, if_congr (lt_leading_iff (by decide : tenPow _ ≠ 0)) rfl rfl⟩
      rw [hcarry] at hkept
      rw [value_carried]
      exact hkept
    · rw [if_neg hcarry]
      refine ⟨_, place, hkept, if_congr ?_ rfl rfl⟩
      by_cases hnothing : dropDigits d.coefficient excess = 0
      · refine iff_of_false ?_ (hsmall (value_of_zero hnothing))
        have hexponent := exponent_of_dropDigits_eq_zero hd hexcess hnothing
        have hlimits : minExponent ≤ maxExponent := by decide
        have hone : Text.digitCount 0 = 1 := rfl
        simp only [leading, digits, hnothing, hone, hexponent]
        omega
      · exact lt_leading_iff hnothing

/-- Only a number as large as the greatest power of ten may be too large for the context. -/
theorem fit_eq_error {signal : Signal} (h : d.fit = .error signal) :
    signal = .overflow ∧ 10 ^ maxExponent ≤ |d.value| := by
  obtain ⟨r, place, hkept, hfit⟩ := fit_cases d
  rw [hfit] at h
  split at h
  next hlarge =>
    have hlimit := pow_le_contextLimit (maxExponent + 1 - contextDigits)
    rw [sub_add_cancel, add_sub_cancel_right] at hlimit
    exact ⟨(Except.error.inj h).symm, hlimit.trans (hkept.overflows_iff.mp hlarge)⟩
  next => cases h

/-! ## Whole numbers -/

theorem mul_pow_of_neg (coefficient : ℕ) {exponent : ℤ} (h : exponent < 0) :
    (coefficient : ℚ) * 10 ^ exponent = coefficient / tenPow exponent.natAbs := by
  have hshift : exponent = -exponent.natAbs := by omega
  rw [hshift, zpow_neg, zpow_natCast, ← tenPow_eq_pow, Int.natAbs_neg, Int.natAbs_natCast,
    div_eq_mul_inv]

theorem mul_pow_of_nonneg (coefficient : ℕ) {exponent : ℤ} (h : 0 ≤ exponent) :
    (coefficient : ℚ) * 10 ^ exponent =
      ((coefficient * tenPow exponent.natAbs : ℕ) : ℤ) := by
  have hshift : exponent = exponent.natAbs := by omega
  rw [hshift, zpow_natCast, ← tenPow_eq_pow, Int.natAbs_natCast]
  norm_cast

theorem isNearest_value {negative : Bool} {coefficient : ℕ} {exponent n : ℤ}
    (h : IsNearest (coefficient * 10 ^ exponent) n) :
    IsNearest (value ⟨negative, coefficient, exponent⟩) (if negative then -n else n) := by
  cases negative with
  | false => exact h
  | true =>
      simp only [value, signed, if_pos, Int.cast_neg, neg_mul]
      exact h.neg

/-- The nearest whole number is taken, unless it has too many digits. -/
theorem toWhole_cases (d : Decimal) :
    if 10 ^ contextDigits ≤ |d.value| then d.toWhole = .error .invalidOperation
    else ∃ n, d.toWhole = .ok n ∧ IsNearest d.value n := by
  by_cases hsmall : d.coefficient = 0 ∨ d.leading < -1
  · have htenth : |d.value| < 10 ^ (-1 : ℤ) := by
      rcases hsmall with hzero | hlow
      · rw [value_of_zero hzero, abs_zero]
        norm_num
      · exact (abs_value_lt d).trans_le (zpow_le_zpow_right₀ (by norm_num) (by omega))
    have hfits : ¬ 10 ^ contextDigits ≤ |d.value| := by
      have hone : (1 : ℚ) ≤ 10 ^ contextDigits := one_le_pow₀ (by norm_num)
      norm_num at htenth
      linarith
    rw [if_neg hfits, toWhole, if_pos hsmall]
    refine ⟨0, rfl, .of_close ?_⟩
    rw [Int.cast_zero, sub_zero]
    norm_num at htenth
    linarith
  · obtain ⟨hd, hlow⟩ := not_or.mp hsmall
    have hdigits : (contextDigits : ℤ) ≤ d.leading ↔ 10 ^ contextDigits ≤ |d.value| := by
      rw [← Int.sub_one_lt_iff, lt_leading_iff hd, sub_add_cancel, zpow_natCast]
    rw [toWhole, if_neg hsmall]
    by_cases hlarge : (contextDigits : ℤ) ≤ d.leading
    · rw [if_pos (hdigits.mp hlarge), if_pos hlarge]
    · rw [if_neg (hdigits.not.mp hlarge), if_neg hlarge]
      split
      next hnegative =>
        refine ⟨_, rfl, isNearest_value ?_⟩
        rw [mul_pow_of_neg _ hnegative]
        exact isNearest_divHalfUp _ (Nat.pow_pos (by decide))
      next hnonneg =>
        refine ⟨_, rfl, isNearest_value (.of_close ?_)⟩
        rw [mul_pow_of_nonneg _ (not_lt.mp hnonneg), sub_self, abs_zero]
        norm_num

end Allowance.Number.Decimal
