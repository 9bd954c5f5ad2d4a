import Mathlib.Algebra.BigOperators.Group.List.Basic
import Allowance.Proofs.Money.Uniform
import Allowance.Proofs.Statistics.Percentile

/-!
# Costs in intervals

The intervals that costs are counted in lie side by side between two percentiles of the costs, so
that every cost between these bounds belongs to exactly one of them.
-/

namespace Allowance.Statistics

/-! ## Counting -/

namespace CostInterval

@[simp] theorem contains_mk (low high cost : Int) (count precision : Nat) (total : Money) :
    contains ⟨⟨low, precision⟩, ⟨high, precision⟩, count, total⟩ ⟨cost, precision⟩ =
      decide (low ≤ cost ∧ cost ≤ high) := by
  simp [contains]

/-- Counts a cost if the interval contains it. -/
def offer (interval : CostInterval) (cost : Money) : CostInterval :=
  if interval.contains cost then interval.add cost else interval

@[simp] theorem low_offer (interval : CostInterval) (cost : Money) :
    (interval.offer cost).low = interval.low := by
  unfold offer
  split <;> rfl

@[simp] theorem high_offer (interval : CostInterval) (cost : Money) :
    (interval.offer cost).high = interval.high := by
  unfold offer
  split <;> rfl

@[simp] theorem contains_offer (interval : CostInterval) (cost : Money) :
    (interval.offer cost).contains = interval.contains := by
  funext other
  rw [contains, low_offer, high_offer, contains]

/-- The interval once each of the costs has been offered to it. -/
def tally (costs : List Money) (interval : CostInterval) : CostInterval :=
  costs.foldl offer interval

theorem tally_eq (costs : List Money) (interval : CostInterval) :
    interval.tally costs =
      { interval with
        count := interval.count + costs.countP interval.contains
        total := (costs.filter interval.contains).foldl (· + ·) interval.total } := by
  induction costs generalizing interval with
  | nil => rfl
  | cons cost rest ih =>
      rw [tally, List.foldl_cons, ← tally, ih, contains_offer]
      by_cases hcontains : interval.contains cost
      · rw [offer, if_pos hcontains, List.countP_cons_of_pos hcontains,
          List.filter_cons_of_pos hcontains, List.foldl_cons, add]
        simp only [Nat.add_assoc, Nat.add_comm 1]
      · rw [offer, if_neg hcontains, List.countP_cons_of_neg hcontains,
          List.filter_cons_of_neg hcontains]

@[simp] theorem low_tally (costs : List Money) (interval : CostInterval) :
    (interval.tally costs).low = interval.low := by
  rw [tally_eq]

@[simp] theorem high_tally (costs : List Money) (interval : CostInterval) :
    (interval.tally costs).high = interval.high := by
  rw [tally_eq]

@[simp] theorem contains_tally (costs : List Money) (interval : CostInterval) :
    (interval.tally costs).contains = interval.contains := by
  funext cost
  rw [contains, low_tally, high_tally, contains]

end CostInterval

open CostInterval

/-- A cost that no more than one interval contains is counted wherever it belongs. -/
theorem countIn_eq_map {intervals : List CostInterval} {cost : Money}
    (honce : intervals.countP (·.contains cost) ≤ 1) :
    countIn intervals cost = intervals.map (·.offer cost) := by
  induction intervals with
  | nil => rfl
  | cons interval rest ih =>
      rw [List.countP_cons] at honce
      rw [countIn, List.map_cons, offer]
      split
      next hcontains =>
        rw [if_pos hcontains] at honce
        have hrest := List.countP_eq_zero.mp (Nat.le_zero.mp (Nat.le_of_succ_le_succ honce))
        have hsame : rest.map (·.offer cost) = rest.map id :=
          List.map_congr_left fun other hother => if_neg (hrest other hother)
        rw [hsame, List.map_id]
      next hcontains =>
        rw [if_neg hcontains, Nat.add_zero] at honce
        rw [ih honce]

theorem foldl_countIn {intervals : List CostInterval} {costs : List Money}
    (honce : ∀ cost ∈ costs, intervals.countP (·.contains cost) ≤ 1) :
    costs.foldl countIn intervals = intervals.map (·.tally costs) := by
  induction costs generalizing intervals with
  | nil => exact (List.map_id intervals).symm
  | cons cost rest ih =>
      obtain ⟨hcost, hrest⟩ := List.forall_mem_cons.mp honce
      rw [List.foldl_cons, countIn_eq_map hcost, ih, List.map_map]
      · rfl
      · intro other hother
        simpa [List.countP_map, Function.comp_def] using hrest other hother

/-! ## Intervals of one width -/

section Uniform

variable {high step : Int} {precision : Nat}

theorem intervalsFrom_add_two (high step unit : Money) (n : Nat) (start : Money) :
    intervalsFrom high step unit (n + 2) start =
      ⟨start, start + step - unit, 0, .zero unit.precision⟩ ::
        intervalsFrom high step unit (n + 1) (start + step) :=
  rfl

/-- A cost belongs to one of the intervals if it is neither below the first one nor above the last
one or the others, and then it belongs to one only. -/
theorem countP_contains_intervalsFrom (hstep : 0 ≤ step) (n : Nat) (start cost : Int) :
    (intervalsFrom ⟨high, precision⟩ ⟨step, precision⟩ ⟨1, precision⟩ (n + 1)
      ⟨start, precision⟩).countP (·.contains ⟨cost, precision⟩) =
      if start ≤ cost ∧ (cost ≤ high ∨ cost < start + n * step) then 1 else 0 := by
  induction n generalizing start with
  | zero =>
      rw [intervalsFrom, List.countP_singleton, contains_mk, Nat.cast_zero, Int.zero_mul]
      simp only [decide_eq_true_eq]
      split_ifs <;> omega
  | succ n ih =>
      have hrest : 0 ≤ n * step := Int.mul_nonneg (Int.natCast_nonneg n) hstep
      rw [intervalsFrom_add_two, List.countP_cons, Money.add_mk, Money.sub_mk, ih, contains_mk,
        Nat.cast_add_one, add_one_mul]
      simp only [decide_eq_true_eq]
      split_ifs <;> omega

/-- All intervals have their bounds in order exactly if the steps move on and do not pass the high
bound; a single interval takes no step. -/
theorem forall_atMost_intervalsFrom (n : Nat) (start : Int) :
    (∀ interval ∈ intervalsFrom ⟨high, precision⟩ ⟨step, precision⟩ ⟨1, precision⟩ (n + 1)
        ⟨start, precision⟩, interval.low.atMost interval.high = true) ↔
      (n = 0 ∨ 0 < step) ∧ start + n * step ≤ high := by
  induction n generalizing start with
  | zero =>
      simp [intervalsFrom]
  | succ n ih =>
      rw [intervalsFrom_add_two, List.forall_mem_cons, Money.add_mk, Money.sub_mk, ih,
        Money.atMost_mk, decide_eq_true_eq, Nat.cast_add_one, add_one_mul]
      omega

end Uniform

section Shape

variable (high step unit : Money) (n : Nat) (start : Money)

theorem length_intervalsFrom : (intervalsFrom high step unit n start).length = n := by
  fun_induction intervalsFrom high step unit n start with
  | case1 => rfl
  | case2 => rfl
  | case3 _ _ _ _ ih => rw [List.length_cons, ih]

theorem head?_intervalsFrom :
    (intervalsFrom high step unit (n + 1) start).head?.map (·.low) = some start := by
  cases n <;> rfl

theorem getLast?_intervalsFrom :
    (intervalsFrom high step unit (n + 1) start).getLast?.map (·.high) = some high := by
  induction n generalizing start with
  | zero => rfl
  | succ n ih =>
      have hne : intervalsFrom high step unit (n + 1) (start + step) ≠ [] :=
        List.ne_nil_of_length_pos (by rw [length_intervalsFrom]; omega)
      rw [intervalsFrom_add_two, List.getLast?_cons_of_ne_nil hne, ih]

theorem mem_intervalsFrom {interval : CostInterval}
    (h : interval ∈ intervalsFrom high step unit n start) :
    interval.count = 0 ∧ interval.total = .zero unit.precision := by
  fun_induction intervalsFrom high step unit n start with
  | case1 => cases h
  | case2 =>
      obtain rfl := List.mem_singleton.mp h
      exact ⟨rfl, rfl⟩
  | case3 _ _ _ _ ih =>
      rcases List.mem_cons.mp h with rfl | hrest
      · exact ⟨rfl, rfl⟩
      · exact ih hrest

/-- Each interval starts one minor unit above the end of the one before. -/
theorem isChain_intervalsFrom (high : Money) (step : Int) (precision n : Nat) (start : Int) :
    (intervalsFrom high ⟨step, precision⟩ ⟨1, precision⟩ n ⟨start, precision⟩).IsChain
      fun a b => b.low = a.high + ⟨1, precision⟩ := by
  induction n generalizing start with
  | zero => exact .nil
  | succ n ih =>
      cases n with
      | zero => exact .singleton _
      | succ n =>
          rw [intervalsFrom_add_two, List.isChain_cons, Money.add_mk]
          refine ⟨fun next hnext => ?_, ih _⟩
          have hlow := head?_intervalsFrom high ⟨step, precision⟩ ⟨1, precision⟩ n
            ⟨start + step, precision⟩
          rw [Option.mem_def.mp hnext, Option.map_some, Option.some.injEq] at hlow
          rw [hlow, Money.sub_mk, Money.add_mk, Int.sub_add_cancel]

end Shape

/-! ## Sums of counts -/

theorem sum_ite_eq_countP {α : Type} (p : α → Bool) (items : List α) :
    (items.map fun item => if p item then 1 else 0).sum = items.countP p := by
  induction items with
  | nil => rfl
  | cons item rest ih => rw [List.map_cons, List.sum_cons, ih, List.countP_cons, Nat.add_comm]

/-- The numbers of costs in the intervals add up to the numbers of intervals around the costs. -/
theorem sum_countP_contains (intervals : List CostInterval) (costs : List Money) :
    (intervals.map (costs.countP ·.contains)).sum =
      (costs.map fun cost => intervals.countP (·.contains cost)).sum := by
  induction costs with
  | nil => simp
  | cons cost rest ih =>
      simp only [List.countP_cons, List.sum_map_add, sum_ite_eq_countP, ih, List.map_cons,
        List.sum_cons, Nat.add_comm]

end Allowance.Statistics
