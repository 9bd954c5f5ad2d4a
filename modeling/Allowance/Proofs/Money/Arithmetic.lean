import Mathlib.Data.Rat.Floor
import Mathlib.Tactic.Linarith
import Allowance.Proofs.Money.Units
import Allowance.Proofs.Number.Rounding

/-!
# Calculating with money

Sums, comparisons and roundings of amounts are those of the rational numbers that the amounts stand
for, whatever the precisions they are written at. So amounts of one value are interchangeable in
every calculation.
-/

namespace Allowance.Money

open Number

variable (a b m : Money)

/-! ## Sums and signs -/

theorem value_add : (a + b).value = a.value + b.value := by
  have hprecision := align_precision a b
  rw [← (value_align a b).1, ← (value_align a b).2]
  change value ⟨(align a b).1.amount + (align a b).2.amount, (align a b).1.precision⟩ = _
  simp only [value, Int.cast_add, add_div, hprecision]

theorem value_sub : (a - b).value = a.value - b.value := by
  have hprecision := align_precision a b
  rw [← (value_align a b).1, ← (value_align a b).2]
  change value ⟨(align a b).1.amount - (align a b).2.amount, (align a b).1.precision⟩ = _
  simp only [value, Int.cast_sub, sub_div, hprecision]

theorem value_neg : (-a).value = -a.value := by
  change value ⟨-a.amount, a.precision⟩ = _
  simp only [value, Int.cast_neg, neg_div]

theorem value_abs : a.abs.value = |a.value| := by
  have hpos : (0 : ℚ) ≤ 10 ^ a.precision := by positivity
  rw [value, value, abs_div, abs_of_nonneg hpos, ← Int.cast_abs, Int.abs_eq_natAbs]
  rfl

/-! ## Sums of many amounts -/

theorem precision_add : (a + b).precision = max a.precision b.precision := by
  change a.precision + (b.precision - a.precision) = _
  omega

theorem precision_sub : (a - b).precision = max a.precision b.precision := by
  change a.precision + (b.precision - a.precision) = _
  omega

theorem value_zero (precision : Nat) : (zero precision).value = 0 := by
  simp [value, zero]

theorem isZero_iff : m.isZero = true ↔ m.value = 0 := by
  rw [isZero, beq_iff_eq, value, div_eq_zero_iff, Int.cast_eq_zero, or_iff_left (by positivity)]

theorem precision_foldl_add_le_iff {bound : Nat} (costs : List Money) :
    (costs.foldl (· + ·) a).precision ≤ bound ↔
      a.precision ≤ bound ∧ ∀ cost ∈ costs, cost.precision ≤ bound := by
  induction costs generalizing a with
  | nil => simp
  | cons cost rest ih =>
      rw [List.foldl_cons, ih, precision_add, Nat.max_le, List.forall_mem_cons, and_assoc]

/-! ## Order -/

theorem atMost_iff : atMost a b = true ↔ a.value ≤ b.value := by
  rw [atMost, Bool.or_eq_true, less_iff, same_iff, le_iff_lt_or_eq]

theorem atLeast_iff : atLeast a b = true ↔ b.value ≤ a.value := by
  rw [atLeast, Bool.not_eq_true', ← Bool.not_eq_true, less_iff, not_lt]

theorem greater_iff : greater a b = true ↔ b.value < a.value := by
  rw [greater, Bool.and_eq_true, Bool.not_eq_true', Bool.not_eq_true', ← Bool.not_eq_true,
    ← Bool.not_eq_true, less_iff, same_iff, not_lt, lt_iff_le_and_ne, ne_comm]

/-! ## Whole units -/

theorem value_eq_div_unit : m.value = m.amount / (m.unit : ℚ) := by
  rw [value, unit, tenPow_eq_pow]

theorem unit_pos : 0 < m.unit :=
  Nat.pow_pos (by decide)

/-- A whole number of units has that value. -/
theorem value_whole (n : ℤ) : value ⟨n * m.unit, m.precision⟩ = n := by
  have hne : (m.unit : ℚ) ≠ 0 := Nat.cast_ne_zero.mpr m.unit_pos.ne'
  rw [value, Int.cast_mul, Int.cast_natCast, ← tenPow_eq_pow]
  exact mul_div_cancel_right₀ _ hne

theorem floor_value : ⌊m.value⌋ = m.amount / m.unit := by
  rw [value_eq_div_unit, Rat.floor_intCast_div_natCast]

theorem value_floor : m.floor.value = ⌊m.value⌋ := by
  rw [floor, value_whole, floor_value, Int.fdiv_eq_ediv_of_nonneg _ (Int.natCast_nonneg _)]

theorem ceil_value : ⌈m.value⌉ = -(-m.amount / m.unit) := by
  rw [value_eq_div_unit, Rat.ceil_intCast_div_natCast]

theorem value_ceil : m.ceil.value = ⌈m.value⌉ := by
  rw [ceil, value_whole, ceil_value, Int.fdiv_eq_ediv_of_nonneg _ (Int.natCast_nonneg _)]

/-- Whole units are what is left of a value toward zero. -/
theorem wholeUnits_eq : m.wholeUnits = if 0 ≤ m.value then ⌊m.value⌋ else ⌈m.value⌉ := by
  have htruncated := tdiv_eq_truncate m.amount (Int.natCast_pos.mpr m.unit_pos)
  rw [Int.cast_natCast, ← value_eq_div_unit] at htruncated
  exact htruncated

theorem round_eq : m.round =
    ⟨m.amount.sign * divHalfUp m.amount.natAbs m.unit * m.unit, m.precision⟩ := by
  rw [round, divHalfUp, Nat.mul_comm 2]
  split <;> simp only [Int.mul_assoc, Nat.add_zero]

theorem value_round : ∃ n : ℤ, m.round.value = n ∧ IsNearest m.value n := by
  have hnearest := isNearest_divHalfUp m.amount.natAbs m.unit_pos
  have hvalue : m.value = m.amount.sign * (m.amount.natAbs / m.unit : ℚ) := by
    rw [value_eq_div_unit, ← mul_div_assoc]
    congr 1
    rw [← Int.cast_natCast (m.amount.natAbs), ← Int.cast_mul, Int.sign_mul_natAbs]
  refine ⟨m.amount.sign * divHalfUp m.amount.natAbs m.unit, ?_, ?_⟩
  · rw [round_eq, value_whole]
  · rw [hvalue]
    rcases lt_trichotomy m.amount 0 with hneg | hzero | hpos
    · rw [Int.sign_eq_neg_one_of_neg hneg, Int.cast_neg, Int.cast_one, neg_one_mul, neg_one_mul]
      exact hnearest.neg
    · have hnothing : divHalfUp 0 m.unit = 0 := by
        simp [divHalfUp, m.unit_pos.ne']
      rw [hzero, Int.natAbs_zero, hnothing] at hnearest
      simpa [hzero] using hnearest
    · rw [Int.sign_eq_one_of_pos hpos, Int.cast_one, one_mul, one_mul]
      exact hnearest

/-! ## Precisions -/

/-- Another precision is taken on as long as it keeps all digits. -/
theorem withPrecision_eq_ok {m result : Money} {precision : ℤ} :
    m.withPrecision precision = .ok result ↔
      m.precision ≤ precision ∧ result.precision = precision ∧ result.value = m.value := by
  unfold withPrecision
  split
  next hless =>
    simp only [reduceCtorEq, false_iff, not_and]
    omega
  next hle =>
    have hprecision : ((m.extend (precision.toNat - m.precision)).precision : ℤ) = precision := by
      simp only [extend]
      omega
    rw [Except.ok.injEq]
    constructor
    · rintro rfl
      exact ⟨by omega, hprecision, value_extend m _⟩
    · rintro ⟨_, hresult, hvalue⟩
      exact eq_of_value (by omega) ((value_extend m _).trans hvalue.symm)

/-- An amount has minor units exactly if its value is a fraction with that many digits. -/
theorem minorUnits_iff_value {precision : ℕ} {units : ℤ} :
    m.minorUnits precision = .ok units ↔ m.value = units / 10 ^ precision := by
  rw [minorUnits_eq_ok, hasUnits_iff_value]
  rfl

/-- An amount without minor units is refused, and the refusal is about the whole amount. -/
theorem minorUnits_of_no_value {precision : ℕ}
    (hnone : ∀ units : ℤ, m.value ≠ units / 10 ^ precision) :
    m.minorUnits precision = .error (.ofRejection (.tooPrecise m precision)) :=
  minorUnits_eq_error fun units hunits => hnone units (hasUnits_iff_value.mp hunits)

/-! ## All calculations -/

/-- What is calculated from two amounts is what is calculated from their values. -/
structure CalculatesExactly (a b : Money) : Prop where
  add : (a + b).value = a.value + b.value
  sub : (a - b).value = a.value - b.value
  neg : (-a).value = -a.value
  abs : a.abs.value = |a.value|
  same : a.same b = true ↔ a.value = b.value
  less : a.less b = true ↔ a.value < b.value
  atMost : a.atMost b = true ↔ a.value ≤ b.value
  greater : a.greater b = true ↔ a.value > b.value
  atLeast : a.atLeast b = true ↔ a.value ≥ b.value
  floor : a.floor.value = ⌊a.value⌋
  ceil : a.ceil.value = ⌈a.value⌉
  round : ∃ n : ℤ, a.round.value = n ∧ IsNearest a.value n
  wholeUnits : a.wholeUnits = if 0 ≤ a.value then ⌊a.value⌋ else ⌈a.value⌉
  withPrecision : ∀ (precision : ℤ) (result : Money), a.withPrecision precision = .ok result ↔
    a.precision ≤ precision ∧ result.precision = precision ∧ result.value = a.value
  minorUnits : ∀ (precision : ℕ) (units : ℤ), a.minorUnits precision = .ok units ↔
    a.value = units / 10 ^ precision
  noMinorUnits : ∀ precision : ℕ, (∀ units : ℤ, a.value ≠ units / 10 ^ precision) →
    a.minorUnits precision =
      .error (if a.hasText = true ∧ Text.hasNumeral precision = true then
        .rejected (.tooPrecise a precision) else .longNumeral)

/-- Whatever is calculated from two amounts has the value that it has for two others. -/
structure CalculatesAlike (a b c d : Money) : Prop where
  add : (a + b).same (c + d) = true
  sub : (a - b).same (c - d) = true
  neg : (-a).same (-c) = true
  abs : a.abs.same c.abs = true
  same : a.same b = c.same d
  less : a.less b = c.less d
  atMost : a.atMost b = c.atMost d
  greater : a.greater b = c.greater d
  atLeast : a.atLeast b = c.atLeast d
  floor : a.floor.same c.floor = true
  ceil : a.ceil.same c.ceil = true
  round : a.round.same c.round = true
  wholeUnits : a.wholeUnits = c.wholeUnits
  withPrecision : ∀ (precision : ℤ) (x y : Money), a.withPrecision precision = .ok x →
    c.withPrecision precision = .ok y → x = y
  minorUnits : ∀ (precision : ℕ) (units : ℤ),
    a.minorUnits precision = .ok units ↔ c.minorUnits precision = .ok units

theorem calculatesExactly : CalculatesExactly a b where
  add := value_add a b
  sub := value_sub a b
  neg := value_neg a
  abs := value_abs a
  same := same_iff a b
  less := less_iff a b
  atMost := atMost_iff a b
  greater := greater_iff a b
  atLeast := atLeast_iff a b
  floor := value_floor a
  ceil := value_ceil a
  round := value_round a
  wholeUnits := wholeUnits_eq a
  withPrecision _ _ := withPrecision_eq_ok
  minorUnits _ _ := minorUnits_iff_value a
  noMinorUnits precision hnone := by
    rw [minorUnits_of_no_value a hnone, Failure.ofRejection_tooPrecise]

/-- Amounts of one value are interchangeable. -/
theorem calculatesAlike {a b c d : Money} (hac : a.same c = true) (hbd : b.same d = true) :
    CalculatesAlike a b c d := by
  rw [same_iff] at hac hbd
  have hround : a.round.value = c.round.value := by
    obtain ⟨m, hm, hnearest⟩ := value_round a
    obtain ⟨n, hn, hother⟩ := value_round c
    rw [hm, hn, hnearest.unique (hac ▸ hother)]
  exact {
    add := by rw [same_iff, value_add, value_add, hac, hbd]
    sub := by rw [same_iff, value_sub, value_sub, hac, hbd]
    neg := by rw [same_iff, value_neg, value_neg, hac]
    abs := by rw [same_iff, value_abs, value_abs, hac]
    same := by rw [Bool.eq_iff_iff, same_iff, same_iff, hac, hbd]
    less := by rw [Bool.eq_iff_iff, less_iff, less_iff, hac, hbd]
    atMost := by rw [Bool.eq_iff_iff, atMost_iff, atMost_iff, hac, hbd]
    greater := by rw [Bool.eq_iff_iff, greater_iff, greater_iff, hac, hbd]
    atLeast := by rw [Bool.eq_iff_iff, atLeast_iff, atLeast_iff, hac, hbd]
    floor := by rw [same_iff, value_floor, value_floor, hac]
    ceil := by rw [same_iff, value_ceil, value_ceil, hac]
    round := by rw [same_iff, hround]
    wholeUnits := by rw [wholeUnits_eq, wholeUnits_eq, hac]
    withPrecision := fun precision x y hx hy => by
      obtain ⟨_, hxPrecision, hxValue⟩ := withPrecision_eq_ok.mp hx
      obtain ⟨_, hyPrecision, hyValue⟩ := withPrecision_eq_ok.mp hy
      exact eq_of_value (by omega) (by rw [hxValue, hyValue, hac])
    minorUnits := fun precision units => by
      rw [minorUnits_iff_value, minorUnits_iff_value, hac] }

/-- Calculating with amounts of any precisions is calculating with rational numbers. So having the
same value is an equivalence, the order is total and compatible with sums, and no result depends on
the precisions that values are written at. An amount without minor units is refused as too precise
if it can be written in the message. -/
theorem calculates_with_values (a b c d : Money) :
    CalculatesExactly a b ∧
    Equivalence (fun x y : Money => x.same y = true) ∧
    (a.atMost b = true ∨ b.atMost a = true) ∧
    (a.atMost b = true → b.atMost a = true → a.same b = true) ∧
    (a.atMost b = true → b.atMost c = true → a.atMost c = true) ∧
    ((a + c).atMost (b + c) = a.atMost b ∧ (a + c).less (b + c) = a.less b) ∧
    (a.same c = true → b.same d = true → CalculatesAlike a b c d) := by
  refine ⟨calculatesExactly a b, ⟨?_, ?_, ?_⟩, ?_, ?_, ?_, ⟨?_, ?_⟩, calculatesAlike⟩
  · intro x
    rw [same_iff]
  · intro x y hxy
    rw [same_iff] at hxy ⊢
    exact hxy.symm
  · intro x y z hxy hyz
    rw [same_iff] at hxy hyz ⊢
    exact hxy.trans hyz
  · rw [atMost_iff, atMost_iff]
    exact le_total _ _
  · intro hab hba
    rw [atMost_iff] at hab hba
    rw [same_iff]
    exact le_antisymm hab hba
  · intro hab hbc
    rw [atMost_iff] at hab hbc ⊢
    exact le_trans hab hbc
  · rw [Bool.eq_iff_iff, atMost_iff, atMost_iff, value_add, value_add, add_le_add_iff_right]
  · rw [Bool.eq_iff_iff, less_iff, less_iff, value_add, value_add, add_lt_add_iff_right]

/-- One and a half below zero at two precisions: no whole number has this value, and the nearest one
is two below zero. -/
theorem calculates_negativeHalf :
    let a : Money := ⟨-150, 2⟩
    let b : Money := ⟨-15, 1⟩
    (a.same b = true ∧ CalculatesAlike a a b b) ∧
    (a.atMost b = true ∧ b.atMost a = true ∧ b.atMost ⟨-1, 0⟩ = true ∧ a.atMost ⟨-1, 0⟩ = true) ∧
    ((∀ units : ℤ, a.value ≠ units / 10 ^ 0) ∧
      a.minorUnits 0 = .error (.rejected (.tooPrecise a 0))) ∧
    a.round.value = -2 := by
  intro a b
  obtain ⟨hexact, _, _, _, _, _, halike⟩ := calculates_with_values a a b b
  obtain ⟨_, _, _, hantisymm, htrans, _, _⟩ := calculates_with_values a b ⟨-1, 0⟩ b
  have hab : a.atMost b = true := by decide
  have hba : b.atMost a = true := by decide
  have hb : b.atMost ⟨-1, 0⟩ = true := by decide
  have hsame : a.same b = true := hantisymm hab hba
  have hnone (units : ℤ) : a.value ≠ units / 10 ^ 0 := by
    intro h
    rw [value, pow_zero, div_one, div_eq_iff (by norm_num)] at h
    have hunits : (-150 : ℤ) = units * 10 ^ 2 := by exact_mod_cast h
    omega
  refine ⟨⟨hsame, halike hsame hsame⟩, ⟨hab, hba, hb, htrans hab hb⟩,
    ⟨hnone, ?_⟩, ?_⟩
  · have hwritable : a.hasText = true ∧ Text.hasNumeral 0 = true := by decide +kernel
    exact (hexact.noMinorUnits 0 hnone).trans (congrArg _ (if_pos hwritable))
  have hround : a.round = ⟨-200, 2⟩ := by decide
  rw [hround, value]
  norm_num

/-- One unit of a thousandth digit more than can be written has no minor units, but is not refused
as too precise. -/
theorem minorUnits_manyDigits :
    let a : Money := ⟨tenPow 4301 + 1, 1⟩
    (∀ units : ℤ, a.value ≠ units / 10 ^ 0) ∧
      a.minorUnits 0 = .error .longNumeral ∧
      a.minorUnits 0 ≠ .error (.rejected (.tooPrecise a 0)) := by
  intro a
  have hnone (units : ℤ) : a.value ≠ units / 10 ^ 0 := by
    intro h
    rw [value, pow_zero, div_one, div_eq_iff (by norm_num)] at h
    have hunits : a.amount = units * 10 := by exact_mod_cast h
    have hdigit : a.amount % 10 = 1 := by decide +kernel
    omega
  have hlong : ¬ (a.hasText = true ∧ Text.hasNumeral 0 = true) := by decide +kernel
  have hunits : a.minorUnits 0 = .error .longNumeral := by
    rw [← Nat.cast_zero, minorUnits_of_no_value a hnone, Failure.ofRejection_tooPrecise]
    exact congrArg _ (if_neg hlong)
  exact ⟨hnone, hunits, by simp [hunits]⟩

end Allowance.Money
