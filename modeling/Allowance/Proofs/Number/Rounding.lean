import Mathlib.Algebra.Order.Field.Rat
import Mathlib.Data.Rat.Floor
import Mathlib.Tactic.Linarith
import Mathlib.Tactic.LinearCombination
import Mathlib.Tactic.Ring
import Allowance.Number.Rounding

/-!
# Whole numbers near a quotient

What it means to round a number to the nearest whole one, a half going away from zero or to the even
neighbour, and that the quotients that are rounded are rounded in these ways. There is one whole
number that a half away from zero leads to, so that rounding depends on the number alone and not on
how it is written. A number that has been rounded before is rounded differently only at a half.
Whole quotients that are not rounded are cut off toward zero.
-/

namespace Allowance.Number

/-- No whole number is nearer, and none that is as near lies farther from zero. -/
structure IsNearest (x : ℚ) (n : ℤ) : Prop where
  nearest : ∀ k : ℤ, |x - n| ≤ |x - k|
  away : ∀ k : ℤ, |x - k| = |x - n| → |k| ≤ |n|

namespace IsNearest

variable {x : ℚ} {m n : ℤ}

theorem of_close (h : |x - n| < 1 / 2) : IsNearest x n := by
  have hfar {k : ℤ} (hk : k ≠ n) : |x - n| < |x - k| := by
    have hstep : 1 ≤ |((n - k : ℤ) : ℚ)| := by
      exact_mod_cast Int.one_le_abs (sub_ne_zero.mpr hk.symm)
    have htriangle : |((n - k : ℤ) : ℚ)| ≤ |x - k| + |x - n| := by
      have hsplit : ((n - k : ℤ) : ℚ) = (x - k) - (x - n) := by
        push_cast
        ring
      rw [hsplit]
      exact abs_sub _ _
    linarith
  constructor
  · intro k
    by_cases hk : k = n
    · rw [hk]
    · exact (hfar hk).le
  · intro k hk
    by_contra hlt
    have hne : k ≠ n := by
      rintro rfl
      exact hlt le_rfl
    exact (hfar hne).ne' hk

theorem neg (h : IsNearest x n) : IsNearest (-x) (-n) := by
  have hflip (k : ℤ) : |-x - k| = |x - (-k : ℤ)| := by
    rw [← abs_neg, Int.cast_neg, neg_sub, sub_neg_eq_add, sub_neg_eq_add, add_comm]
  constructor
  · intro k
    rw [hflip, hflip, neg_neg]
    exact h.nearest _
  · intro k hk
    rw [hflip, hflip, neg_neg] at hk
    rw [← abs_neg k, abs_neg n]
    exact h.away _ hk

theorem neg_iff : IsNearest (-x) (-n) ↔ IsNearest x n := by
  refine ⟨fun h => ?_, neg⟩
  rw [← neg_neg x, ← neg_neg n]
  exact h.neg

theorem unique (hm : IsNearest x m) (hn : IsNearest x n) : m = n := by
  have hdistance : |x - m| = |x - n| := le_antisymm (hm.nearest n) (hn.nearest m)
  have habs : |m| = |n| := le_antisymm (hn.away m hdistance) (hm.away n hdistance.symm)
  rcases abs_eq_abs.mp habs with heq | rfl
  · exact heq
  -- Two opposite numbers are equally near to zero alone, and zero itself is nearer.
  · have hnear := hn.nearest 0
    have hzero : (n : ℚ) = 0 := by
      rw [Int.cast_neg, sub_neg_eq_add] at hdistance
      rcases abs_eq_abs.mp hdistance with hsum | hsum
      · linarith
      · obtain rfl : x = 0 := by linarith
        simpa using hnear
    rw [Int.cast_eq_zero.mp hzero, neg_zero]

/-- A natural number is nearest to what lies at most a half below it or less than a half above. -/
theorem of_between {m : ℕ} (hlow : m ≤ x + 1 / 2) (hhigh : x < m + 1 / 2) (hx : 0 ≤ x) :
    IsNearest x m := by
  constructor
  · intro k
    rw [Int.cast_natCast, abs_le]
    rcases lt_trichotomy k m with hk | rfl | hk
    · have hstep : (k : ℚ) + 1 ≤ m := by exact_mod_cast hk
      have := le_abs_self (x - k)
      constructor <;> linarith
    · rw [Int.cast_natCast]
      exact abs_le.mp (le_refl _)
    · have hstep : (m : ℚ) + 1 ≤ k := by exact_mod_cast hk
      have := neg_le_abs (x - k)
      constructor <;> linarith
  · intro k hk
    rw [Int.cast_natCast] at hk
    rcases abs_eq_abs.mp hk with hsame | hopposite
    · have hkm : (k : ℚ) = m := by linarith
      obtain rfl : k = m := by exact_mod_cast hkm
      exact le_refl _
    -- The number on the other side, as near as this one, is the next below.
    · have hbelow : (k : ℚ) < m + 1 := by linarith
      have habove : -(m : ℚ) ≤ k := by linarith
      have hk₁ : k < m + 1 := by exact_mod_cast hbelow
      have hk₂ : -(m : ℤ) ≤ k := by exact_mod_cast habove
      rw [Int.abs_natCast, abs_le]
      omega

theorem iff_of_nonneg (hx : 0 ≤ x) :
    IsNearest x n ↔ (n : ℚ) - 1 / 2 ≤ x ∧ x < n + 1 / 2 := by
  have hbetween {m : ℤ} (hlow : (m : ℚ) - 1 / 2 ≤ x) (hhigh : x < m + 1 / 2) : IsNearest x m := by
    have hnonneg : 0 ≤ m := by
      have : (-1 : ℚ) < m := by linarith
      exact_mod_cast this
    obtain ⟨m, rfl⟩ := Int.eq_ofNat_of_zero_le hnonneg
    rw [Int.cast_natCast] at hlow hhigh
    exact of_between (by linarith) hhigh hx
  constructor
  · intro hn
    have hfloor := Int.floor_le (x + 1 / 2)
    have hnext := Int.lt_floor_add_one (x + 1 / 2)
    have hnearest : IsNearest x ⌊x + 1 / 2⌋ := hbetween (by linarith) (by linarith)
    rw [hn.unique hnearest]
    constructor <;> linarith
  · rintro ⟨hlow, hhigh⟩
    exact hbetween hlow hhigh

end IsNearest

/-- A quotient rounded half up is rounded to the nearest whole number. -/
theorem isNearest_divHalfUp (num : ℕ) {den : ℕ} (hden : 0 < den) :
    IsNearest (num / den) (divHalfUp num den) := by
  have hpos : (0 : ℚ) < den := by exact_mod_cast hden
  have hdivision := Nat.div_add_mod num den
  have hrest := Nat.mod_lt num hden
  have hbounds : 2 * (divHalfUp num den * den) ≤ 2 * num + den ∧
      2 * num < 2 * (divHalfUp num den * den) + den := by
    unfold divHalfUp
    rw [Nat.add_mul, Nat.mul_comm (num / den)]
    split <;> omega
  obtain ⟨hlow, hhigh⟩ := hbounds
  have hlow' : 2 * ((divHalfUp num den : ℚ) * den) ≤ 2 * num + den := by exact_mod_cast hlow
  have hhigh' : 2 * (num : ℚ) < 2 * (divHalfUp num den * den) + den := by exact_mod_cast hhigh
  apply IsNearest.of_between
  · rw [← sub_le_iff_le_add, le_div_iff₀ hpos]
    linarith
  · rw [div_lt_iff₀ hpos]
    linarith
  · exact div_nonneg (Nat.cast_nonneg _) hpos.le

/-! ## Half to even -/

/-- A whole number at most one half away, and an even one if it is one half away. -/
structure IsNearestEven (x : ℚ) (n : ℤ) : Prop where
  close : |x - n| ≤ 1 / 2
  even : |x - n| = 1 / 2 → Even n

namespace IsNearestEven

variable {x : ℚ} {n k : ℤ}

theorem of_int (n : ℤ) : IsNearestEven n n := by
  constructor <;> rw [sub_self, abs_zero]
  · norm_num
  · intro htie
    norm_num at htie

theorem neg (h : IsNearestEven x n) : IsNearestEven (-x) (-n) := by
  have hflip : |-x - (-n : ℤ)| = |x - n| := by
    rw [Int.cast_neg, neg_sub_neg, abs_sub_comm]
  constructor <;> rw [hflip]
  · exact h.close
  · exact fun htie => even_neg.mpr (h.even htie)

/-- Rounding does not move a number past a whole one. -/
theorem le_of_le (h : IsNearestEven x n) (hk : (k : ℚ) ≤ x) : k ≤ n := by
  by_contra hlt
  have hstep : (n : ℚ) + 1 ≤ k := by exact_mod_cast Int.not_le.mp hlt
  have := (abs_le.mp h.close).2
  linarith

/-- A tie below an even number goes to this number. -/
theorem le_iff_of_even (h : IsNearestEven x n) (hk : Even k) : k ≤ n ↔ (k : ℚ) - 1 / 2 ≤ x := by
  constructor
  · intro hle
    have hcast : (k : ℚ) ≤ n := by exact_mod_cast hle
    have := (abs_le.mp h.close).1
    linarith
  · intro hx
    by_contra hlt
    have hstep : (n : ℚ) + 1 ≤ k := by exact_mod_cast Int.not_le.mp hlt
    have hclose := (abs_le.mp h.close).2
    have hnext : n + 1 = k := by
      have hcast : (k : ℚ) = n + 1 := by linarith
      exact_mod_cast hcast.symm
    have hhalf : x - n = 1 / 2 := by linarith
    have htie : |x - n| = 1 / 2 := by
      rw [hhalf]
      norm_num
    exact Int.not_even_iff_odd.mpr (h.even htie).add_one (hnext ▸ hk)

theorem unique {m : ℤ} (hm : IsNearestEven x m) (hn : IsNearestEven x n) : m = n := by
  have hle {i j : ℤ} (hi : IsNearestEven x i) (hj : IsNearestEven x j) : i ≤ j := by
    have hclose := (abs_le.mp hi.close).1
    rcases Int.even_or_odd i with heven | hodd
    · exact (hj.le_iff_of_even heven).mpr (by linarith)
    -- An odd number is not at a tie, and so less than one half away.
    · have hnotie : |x - i| ≠ 1 / 2 := fun htie => Int.not_even_iff_odd.mpr hodd (hi.even htie)
      have hnear := (abs_lt.mp (hi.close.lt_of_ne hnotie)).1
      have hfar := (abs_le.mp hj.close).2
      have hlt : (i : ℚ) < j + 1 := by linarith
      exact Int.lt_add_one_iff.mp (by exact_mod_cast hlt)
  exact le_antisymm (hle hm hn) (hle hn hm)

end IsNearestEven

/-- A quotient rounded half to even is rounded to the nearest whole number. -/
theorem isNearestEven_divHalfEven (num : ℕ) {den : ℕ} (hden : 0 < den) :
    IsNearestEven (num / den) (divHalfEven num den) := by
  have hpos : (0 : ℚ) < den := by exact_mod_cast hden
  have hdivision := Nat.div_add_mod num den
  have hrest := Nat.mod_lt num hden
  have hbounds : 2 * (divHalfEven num den * den) ≤ 2 * num + den ∧
      2 * num ≤ 2 * (divHalfEven num den * den) + den ∧
      (2 * num = 2 * (divHalfEven num den * den) + den ∨
        2 * (divHalfEven num den * den) = 2 * num + den → divHalfEven num den % 2 = 0) := by
    unfold divHalfEven
    dsimp only
    rw [Nat.mul_comm] at hdivision
    split
    · omega
    · split
      · rw [Nat.add_mul]
        omega
      -- A tie: what is added makes the quotient even.
      · rcases Nat.mod_two_eq_zero_or_one (num / den) with heven | hodd
        · rw [heven, Nat.add_zero]
          omega
        · rw [hodd, Nat.add_mul]
          omega
  obtain ⟨hlow, hhigh, htie⟩ := hbounds
  have hlow' : 2 * ((divHalfEven num den : ℚ) * den) ≤ 2 * num + den := by exact_mod_cast hlow
  have hhigh' : 2 * (num : ℚ) ≤ 2 * (divHalfEven num den * den) + den := by exact_mod_cast hhigh
  have hquotient : (num : ℚ) / den * den = num := div_mul_cancel₀ _ hpos.ne'
  constructor <;> rw [Int.cast_natCast]
  · rw [abs_le, neg_le_sub_iff_le_add, sub_le_iff_le_add, ← sub_le_iff_le_add, le_div_iff₀ hpos,
      div_le_iff₀ hpos]
    constructor <;> linarith
  · intro hhalf
    have hties : (2 * num : ℚ) = 2 * (divHalfEven num den * den) + den ∨
        (2 * (divHalfEven num den * den) : ℚ) = 2 * num + den := by
      rcases (abs_eq (by norm_num)).mp hhalf with habove | hbelow
      · exact .inl (by linear_combination 2 * den * habove - 2 * hquotient)
      · exact .inr (by linear_combination -2 * den * hbelow + 2 * hquotient)
    exact (Int.even_coe_nat _).mpr (Nat.even_iff.mpr (htie (by exact_mod_cast hties)))

/-! ## Rounding twice -/

/-- A whole number and a half. -/
def IsHalf (x : ℚ) : Prop :=
  ∃ k : ℤ, x = k + 1 / 2

theorem IsHalf.half_le_abs {x : ℚ} (h : IsHalf x) : 1 / 2 ≤ |x| := by
  obtain ⟨k, rfl⟩ := h
  rcases le_or_gt 0 k with hk | hk
  · have hcast : (0 : ℚ) ≤ k := by exact_mod_cast hk
    exact le_abs.mpr (.inl (by linarith))
  · have hcast : (k : ℚ) + 1 ≤ 0 := by exact_mod_cast hk
    exact le_abs.mpr (.inr (by linarith))

theorem IsHalf.neg {x : ℚ} (h : IsHalf x) : IsHalf (-x) := by
  obtain ⟨k, rfl⟩ := h
  refine ⟨-k - 1, ?_⟩
  push_cast
  ring

namespace IsNearest

variable {x y : ℚ} {n : ℤ}

/-- Rounding a number after it has been moved, without passing a half. The result is that of
rounding at once unless the larger one of both numbers is a half, which the other one misses. -/
theorem iff_of_moved_of_nonneg (hx : 0 ≤ x) (hy : 0 ≤ y)
    (hup : ∀ half, IsHalf half → x < half → y ≤ half)
    (hdown : ∀ half, IsHalf half → half < x → half ≤ y) (hn : IsNearest y n) :
    IsNearest x n ↔ x = y ∨ ¬ IsHalf (max x y) := by
  rw [iff_of_nonneg hy] at hn
  rw [iff_of_nonneg hx]
  obtain ⟨hlow, hhigh⟩ := hn
  constructor
  · rintro ⟨hxlow, hxhigh⟩
    by_contra hdiffer
    rw [not_or, not_not] at hdiffer
    obtain ⟨hne, k, hk⟩ := hdiffer
    have hkn : (k : ℚ) + 1 ≤ n := by
      have : (k : ℚ) < n := by
        have := max_lt hxhigh hhigh
        linarith
      exact_mod_cast this
    have hxk := le_max_left x y
    have hyk := le_max_right x y
    exact hne (by linarith)
  · rintro (rfl | hnot)
    · exact ⟨hlow, hhigh⟩
    · have hlower : IsHalf ((n : ℚ) - 1 / 2) := ⟨n - 1, by push_cast; ring⟩
      have hupper : IsHalf ((n : ℚ) + 1 / 2) := ⟨n, rfl⟩
      constructor
      · by_contra hlt
        have hle := hup _ hlower (not_le.mp hlt)
        rw [max_eq_right (by linarith), le_antisymm hle hlow] at hnot
        exact hnot hlower
      · by_contra hge
        have hle := not_lt.mp fun hlt => (hdown _ hupper hlt).not_gt hhigh
        rw [max_eq_left (by linarith), le_antisymm hle (not_lt.mp hge)] at hnot
        exact hnot hupper

/-- The same on either side of zero. -/
theorem iff_of_moved (hsign : 0 ≤ x ∧ 0 ≤ y ∨ x ≤ 0 ∧ y ≤ 0)
    (hup : ∀ half, IsHalf half → x < half → y ≤ half)
    (hdown : ∀ half, IsHalf half → half < x → half ≤ y) (hn : IsNearest y n) :
    IsNearest x n ↔ x = y ∨ ¬ IsHalf (max |x| |y|) := by
  rcases hsign with ⟨hx, hy⟩ | ⟨hx, hy⟩
  · rw [abs_of_nonneg hx, abs_of_nonneg hy]
    exact iff_of_moved_of_nonneg hx hy hup hdown hn
  · rw [abs_of_nonpos hx, abs_of_nonpos hy, ← neg_inj, ← neg_iff]
    refine iff_of_moved_of_nonneg (neg_nonneg.mpr hx) (neg_nonneg.mpr hy) ?_ ?_ hn.neg
    · intro half hhalf hlt
      exact neg_le.mp (hdown _ hhalf.neg (neg_lt.mp hlt))
    · intro half hhalf hlt
      exact le_neg.mp (hup _ hhalf.neg (lt_neg.mp hlt))

end IsNearest

/-! ## Toward zero -/

/-- The whole part of a number, what is left of it toward zero. -/
def truncate (x : ℚ) : ℤ :=
  if 0 ≤ x then ⌊x⌋ else ⌈x⌉

theorem tdiv_eq_truncate (num : ℤ) {den : ℤ} (hden : 0 < den) :
    num.tdiv den = truncate (num / den) := by
  obtain ⟨den, rfl⟩ := Int.eq_ofNat_of_zero_le hden.le
  have hpos : (0 : ℚ) < den := by exact_mod_cast hden
  have hsign : (0 : ℚ) ≤ num / den ↔ 0 ≤ num := by
    rw [le_div_iff₀ hpos, zero_mul, Int.cast_nonneg_iff]
  rw [Int.cast_natCast, truncate]
  split
  next hnonneg =>
    rw [Int.tdiv_eq_ediv_of_nonneg (hsign.mp hnonneg), Rat.floor_intCast_div_natCast]
  next hneg =>
    have hopposite : 0 ≤ -num := by
      have := mt hsign.mpr hneg
      omega
    rw [Rat.ceil_intCast_div_natCast, ← Int.tdiv_eq_ediv_of_nonneg hopposite, Int.neg_tdiv,
      Int.neg_neg]

end Allowance.Number
