import Mathlib
import Allowance.Proofs.Outcome
import Allowance.Proofs.Statistics.Intervals

/-!
# The distribution of costs

The intervals of the costs of spends lie side by side from the low bound to the high bound, and
more than nine tenths of the spends are counted in them, each in one. The width of the intervals is
rounded to whole units, so the steps may stand still or lead beyond the high bound.
-/

namespace Allowance.Statistics

open CostInterval

/-! ## Bounds and width -/

/-- The fifth percentile of the costs, rounded down to whole units. -/
def lowBound (rows : List SpendRecord) : Except Failure Money :=
  (percentile (Money.ascending (rows.map (·.cost))) 5).map (·.floor)

/-- The ninety-fifth percentile of the costs, rounded up to whole units. -/
def highBound (rows : List SpendRecord) : Except Failure Money :=
  (percentile (Money.ascending (rows.map (·.cost))) 95).map (·.ceil)

/-- The width of a number of intervals between two bounds, rounded to whole units. -/
def width (low high : Money) (count : Int) : Except Failure Money :=
  ((high - low).divide count).map (·.round)

variable {rows : List SpendRecord} {low high step : Money}

theorem costIntervals_eq_ok {count : Int} (hrows : rows ≠ []) (hcount : 0 < count)
    (hlow : lowBound rows = .ok low) (hhigh : highBound rows = .ok high)
    (hstep : width low high count = .ok step) :
    costIntervals rows count = .ok ((rows.map (·.cost)).foldl countIn
      (intervalsFrom high step ⟨1, low.precision⟩ count.toNat low)) := by
  obtain ⟨first, hfirst, rfl⟩ := Outcome.map_eq_ok.mp hlow
  obtain ⟨last, hlast, rfl⟩ := Outcome.map_eq_ok.mp hhigh
  obtain ⟨quotient, hquotient, rfl⟩ := Outcome.map_eq_ok.mp hstep
  have hsome : rows.isEmpty = false := by simpa using hrows
  rw [costIntervals, if_neg (by omega), hsome]
  simp [bind, Except.bind, pure, Except.pure, hfirst, hlast, hquotient]

theorem exists_bounds (hrows : rows ≠ []) :
    ∃ first last : Money, first ∈ rows.map (·.cost) ∧ last ∈ rows.map (·.cost) ∧
      lowBound rows = .ok first.floor ∧ highBound rows = .ok last.ceil := by
  have hperm := Money.ascending_perm (rows.map (·.cost))
  have hcosts : Money.ascending (rows.map (·.cost)) ≠ [] := by
    intro hnil
    rw [hnil, List.nil_perm, List.map_eq_nil_iff] at hperm
    exact hrows hperm
  obtain ⟨first, hfirst, hlow⟩ := exists_percentile hcosts 5
  obtain ⟨last, hlast, hhigh⟩ := exists_percentile hcosts 95
  exact ⟨first, last, hperm.mem_iff.mp hfirst, hperm.mem_iff.mp hlast,
    Outcome.map_eq_ok.mpr ⟨first, hlow, rfl⟩, Outcome.map_eq_ok.mpr ⟨last, hhigh, rfl⟩⟩

theorem lowBound_le_highBound (hlow : lowBound rows = .ok low)
    (hhigh : highBound rows = .ok high) : low.value ≤ high.value := by
  obtain ⟨first, hfirst, rfl⟩ := Outcome.map_eq_ok.mp hlow
  obtain ⟨last, hlast, rfl⟩ := Outcome.map_eq_ok.mp hhigh
  have hle := percentile_mono (Money.pairwise_ascending _) (by decide) hfirst hlast
  rw [Money.value_floor, Money.value_ceil]
  exact ((Int.floor_le _).trans hle).trans (Int.le_ceil _)

theorem countP_le_add {α : Type} {p q r : α → Bool} {items : List α}
    (h : ∀ item ∈ items, p item → q item ∨ r item) :
    items.countP p ≤ items.countP q + items.countP r := by
  rw [List.countP_eq_countP_filter_add items p q, List.countP_filter, List.countP_filter]
  apply Nat.add_le_add
  · apply List.countP_mono_left
    simp
  · apply List.countP_mono_left
    intro item hitem hboth
    obtain ⟨hp, hq⟩ := Bool.and_eq_true_iff.mp hboth
    exact (h item hitem hp).resolve_left (by simpa using hq)

/-- More than nine tenths of the costs lie between the bounds. -/
theorem nine_tenths_lt_countP (hlow : lowBound rows = .ok low)
    (hhigh : highBound rows = .ok high) :
    9 * rows.length <
      10 * rows.countP (fun row => low.atMost row.cost && row.cost.atMost high) := by
  obtain ⟨first, hfirst, rfl⟩ := Outcome.map_eq_ok.mp hlow
  obtain ⟨last, hlast, rfl⟩ := Outcome.map_eq_ok.mp hhigh
  have hperm := Money.ascending_perm (rows.map (·.cost))
  have hsorted := Money.pairwise_ascending (rows.map (·.cost))
  have hbelow := (hasRank_percentile hsorted (by decide) (by decide) hfirst).smaller
  have habove := (hasRank_percentile hsorted (by decide) (by decide) hlast).atMost
  rw [hperm.countP_eq, hperm.length_eq, List.length_map, List.countP_map] at hbelow habove
  have hcover : rows.countP ((·.atMost last) ∘ (·.cost)) ≤
      rows.countP ((·.less first) ∘ (·.cost)) +
        rows.countP (fun row => first.floor.atMost row.cost && row.cost.atMost last.ceil) := by
    apply countP_le_add
    intro row _ hatMost
    simp only [Function.comp_apply, Bool.and_eq_true, Money.atMost_iff, Money.less_iff,
      Money.value_floor, Money.value_ceil] at hatMost ⊢
    rcases lt_or_ge row.cost.value first.value with hless | hge
    · exact .inl hless
    · exact .inr ⟨(Int.floor_le _).trans hge, hatMost.trans (Int.le_ceil _)⟩
  omega

/-! ## Costs of one precision -/

variable {precision : Nat}

theorem exists_width {low high count : Int} (h : low ≤ high) (hcount : 0 < count) :
    ∃ step : Int, width ⟨low, precision⟩ ⟨high, precision⟩ count = .ok ⟨step, precision⟩ ∧
      0 ≤ step := by
  have hquotient : 0 ≤ (high - low).tdiv count := Int.tdiv_nonneg (by omega) hcount.le
  refine ⟨(Money.round ⟨(high - low).tdiv count, precision⟩).amount, ?_, ?_⟩
  · rw [width, Money.sub_mk, Money.divide_mk _ _ hcount]
    rfl
  · rw [Money.round_eq]
    exact Int.mul_nonneg (Int.mul_nonneg (Int.sign_nonneg_iff.mpr hquotient) (Int.natCast_nonneg _))
      (Int.natCast_nonneg _)

/-- The bounds, the width and the intervals at the precision of the costs. -/
theorem exists_intervals (hrows : rows ≠ [])
    (hprecision : ∀ row ∈ rows, row.cost.precision = precision) (n : Nat) :
    ∃ low high step : Int, lowBound rows = .ok ⟨low, precision⟩ ∧
      highBound rows = .ok ⟨high, precision⟩ ∧
      width ⟨low, precision⟩ ⟨high, precision⟩ (n + 1) = .ok ⟨step, precision⟩ ∧
      0 ≤ step ∧
      costIntervals rows (n + 1) = .ok ((intervalsFrom ⟨high, precision⟩ ⟨step, precision⟩
        ⟨1, precision⟩ (n + 1) ⟨low, precision⟩).map (·.tally (rows.map (·.cost)))) := by
  obtain ⟨first, last, hfirst, hlast, hlow, hhigh⟩ := exists_bounds hrows
  have hcosts : ∀ cost ∈ rows.map (·.cost), cost.precision = precision := by
    simpa using hprecision
  have hsame : last.ceil.precision = first.floor.precision :=
    (hcosts last hlast).trans (hcosts first hfirst).symm
  have hle : first.floor.amount ≤ last.ceil.amount := by
    rw [← not_lt, Money.amount_lt_iff hsame, not_lt]
    exact lowBound_le_highBound hlow hhigh
  have hfloor : first.floor = ⟨first.floor.amount, precision⟩ := Money.eq_mk (hcosts first hfirst)
  have hceil : last.ceil = ⟨last.ceil.amount, precision⟩ := Money.eq_mk (hcosts last hlast)
  rw [hfloor] at hlow
  rw [hceil] at hhigh
  have hcount : (0 : Int) < n + 1 := by omega
  obtain ⟨step, hwidth, hstep⟩ := exists_width hle hcount
  refine ⟨_, _, step, hlow, hhigh, hwidth, hstep, ?_⟩
  rw [costIntervals_eq_ok hrows hcount hlow hhigh hwidth, foldl_countIn]
  · rfl
  · intro cost hcost
    obtain rfl := hcosts cost hcost
    rw [Int.toNat_natCast_add_one, countP_contains_intervalsFrom hstep]
    split <;> decide

/-- An interval has counted the spends with a cost that it contains and added up their costs. -/
structure CostInterval.HasCounted (precision : Nat) (rows : List SpendRecord)
    (interval : CostInterval) : Prop where
  count : interval.count = rows.countP (interval.contains ·.cost)
  total : interval.total =
    ⟨((rows.filter (interval.contains ·.cost)).map (·.cost.amount)).sum, precision⟩

theorem hasCounted_tally (hprecision : ∀ row ∈ rows, row.cost.precision = precision)
    {high step start : Money} {n : Nat} :
    ∀ interval ∈ (intervalsFrom high step ⟨1, precision⟩ n start).map
      (·.tally (rows.map (·.cost))), interval.HasCounted precision rows := by
  rw [List.forall_mem_map]
  intro interval hinterval
  obtain ⟨hcount, htotal⟩ := mem_intervalsFrom _ _ _ _ _ hinterval
  have hcosts : (rows.filter (interval.contains ·.cost)).map (·.cost) =
      ((rows.filter (interval.contains ·.cost)).map (·.cost.amount)).map (⟨·, precision⟩) := by
    rw [List.map_map]
    apply List.map_congr_left
    intro row hrow
    exact Money.eq_mk (hprecision row (List.mem_of_mem_filter hrow))
  constructor
  · rw [contains_tally, tally_eq, hcount, List.countP_map, Nat.zero_add]
    rfl
  · rw [contains_tally, tally_eq, htotal, List.filter_map]
    exact Money.foldl_add_of_perm (.of_eq hcosts)

theorem countP_contains_tally (hprecision : ∀ row ∈ rows, row.cost.precision = precision)
    {step : Int} (hstep : 0 ≤ step) (low high : Int) (n : Nat) (costs : List Money) :
    ∀ row ∈ rows, ((intervalsFrom ⟨high, precision⟩ ⟨step, precision⟩ ⟨1, precision⟩ (n + 1)
        ⟨low, precision⟩).map (·.tally costs)).countP (·.contains row.cost) =
      if low ≤ row.cost.amount ∧ (row.cost.amount ≤ high ∨ row.cost.amount < low + n * step)
      then 1 else 0 := by
  intro row hrow
  rw [← countP_contains_intervalsFrom hstep, ← Money.eq_mk (hprecision row hrow), List.countP_map]
  simp only [Function.comp_def, contains_tally]

/-- If no spend belongs to more than one interval, the counts add up to the number of spends that
belong to one. -/
theorem sum_count {intervals : List CostInterval} (within : SpendRecord → Bool)
    (hcounted : ∀ interval ∈ intervals, interval.HasCounted precision rows)
    (honce : ∀ row ∈ rows, intervals.countP (·.contains row.cost) = if within row then 1 else 0) :
    (intervals.map (·.count)).sum = rows.countP within := by
  calc (intervals.map (·.count)).sum
      = (intervals.map ((rows.map (·.cost)).countP ·.contains)).sum := by
        congr 1
        apply List.map_congr_left
        intro interval hinterval
        rw [(hcounted interval hinterval).count, List.countP_map]
        rfl
    _ = (rows.map fun row => if within row then 1 else 0).sum := by
        rw [sum_countP_contains, List.map_map]
        congr 1
        exact List.map_congr_left honce
    _ = rows.countP within := sum_ite_eq_countP within rows

/-! ## Intervals side by side -/

/-- Intervals from a low to a high bound. Each but the first one starts one minor unit above the end
of the one before. -/
structure Tiles (precision : Nat) (low high : Int) (intervals : List CostInterval) : Prop where
  starts : intervals.head?.map (·.low) = some ⟨low, precision⟩
  adjacent : intervals.IsChain fun a b => b.low = a.high + ⟨1, precision⟩
  ends : intervals.getLast?.map (·.high) = some ⟨high, precision⟩

/-- The steps from the start of one interval to the start of the next move on and do not pass the
high bound. A single interval takes no step. -/
def StepsFit (low high step count : Int) : Prop :=
  (count = 1 ∨ 0 < step) ∧ low + (count - 1) * step ≤ high

/-- The intervals lie side by side from the low bound to the high bound. Their own bounds are in
order exactly if the steps fit. No spend below the low bound is counted, and one above the high
bound is counted only if it costs less than where the steps lead to. -/
theorem tiles_costIntervals (hrows : rows ≠ [])
    (hprecision : ∀ row ∈ rows, row.cost.precision = precision) {count : Int} (hcount : 1 ≤ count) :
    ∃ low high step : Int, ∃ intervals,
      lowBound rows = .ok ⟨low, precision⟩ ∧ highBound rows = .ok ⟨high, precision⟩ ∧
      width ⟨low, precision⟩ ⟨high, precision⟩ count = .ok ⟨step, precision⟩ ∧
      costIntervals rows count = .ok intervals ∧ intervals.length = count ∧
      Tiles precision low high intervals ∧
      (∀ interval ∈ intervals, interval.HasCounted precision rows) ∧
      ((∀ interval ∈ intervals, interval.low.atMost interval.high = true) ↔
        StepsFit low high step count) ∧
      ∀ row ∈ rows, (∃ interval ∈ intervals, interval.contains row.cost = true) ↔
        low ≤ row.cost.amount ∧
          (row.cost.amount ≤ high ∨ row.cost.amount < low + (count - 1) * step) := by
  obtain ⟨n, rfl⟩ : ∃ n : Nat, count = n + 1 := ⟨(count - 1).toNat, by omega⟩
  obtain ⟨low, high, step, hlow, hhigh, hwidth, hstep, hintervals⟩ :=
    exists_intervals hrows hprecision n
  refine ⟨low, high, step, _, hlow, hhigh, hwidth, hintervals, ?_, ⟨?_, ?_, ?_⟩, ?_, ?_, ?_⟩
  · rw [List.length_map, length_intervalsFrom, Nat.cast_add, Nat.cast_one]
  · simpa [Function.comp_def] using head?_intervalsFrom _ _ _ n ⟨low, precision⟩
  · simpa [List.isChain_map] using isChain_intervalsFrom ⟨high, precision⟩ step precision _ low
  · simpa [Function.comp_def] using getLast?_intervalsFrom ⟨high, precision⟩ _ _ n ⟨low, precision⟩
  · exact hasCounted_tally hprecision
  · rw [List.forall_mem_map]
    simp only [low_tally, high_tally]
    rw [forall_atMost_intervalsFrom, StepsFit]
    simp
  · intro row hrow
    rw [← List.countP_pos_iff, countP_contains_tally hprecision hstep low high n _ row hrow,
      Int.add_sub_cancel]
    split
    next hwithin => exact iff_of_true Nat.one_pos hwithin
    next hbeyond => exact iff_of_false (Nat.lt_irrefl 0) hbeyond

/-- A refund and two purchases in four intervals of four whole units, up to the dearer one. -/
theorem tiles_fittingSteps :
    let rows : List SpendRecord := [⟨1, 2025, 1, 2, "Refund", ⟨-250, 2⟩, 0, ""⟩,
      ⟨2, 2025, 1, 3, "Coffee", ⟨320, 2⟩, 0, ""⟩, ⟨3, 2025, 1, 4, "Dinner", ⟨1200, 2⟩, 0, ""⟩]
    rows ≠ [] ∧ (∀ row ∈ rows, row.cost.precision = 2) ∧ StepsFit (-300) 1200 400 4 ∧
      ∃ intervals, costIntervals rows 4 = .ok intervals ∧ Tiles 2 (-300) 1200 intervals ∧
        ∀ interval ∈ intervals, interval.low.atMost interval.high = true := by
  intro rows
  have hrows : rows ≠ [] := List.cons_ne_nil _ _
  have hprecision : ∀ row ∈ rows, row.cost.precision = 2 := by decide
  have hfit : StepsFit (-300) 1200 400 4 := by
    unfold StepsFit
    decide
  obtain ⟨low, high, step, intervals, hlow, hhigh, hwidth, hintervals, -, htiles, -, hordered, -⟩ :=
    tiles_costIntervals hrows hprecision (by decide : (1 : Int) ≤ 4)
  have hlowBound : lowBound rows = .ok ⟨-300, 2⟩ := by cbv
  have hhighBound : highBound rows = .ok ⟨1200, 2⟩ := by cbv
  rw [hlowBound] at hlow
  rw [hhighBound] at hhigh
  cases hlow
  cases hhigh
  cases hwidth
  exact ⟨hrows, hprecision, hfit, intervals, hintervals, htiles, hordered.mpr hfit⟩

/-- Intervals of a whole unit between one and four, although a fifth of the distance is less: the
last one would start beyond the high bound, and a dinner for more than that is counted. -/
theorem not_within_passingSteps :
    let rows : List SpendRecord := ⟨1, 2025, 1, 1, "Coffee", ⟨100, 2⟩, 0, ""⟩ ::
      ⟨2, 2025, 1, 2, "Dinner", ⟨450, 2⟩, 0, ""⟩ ::
      List.replicate 18 ⟨3, 2025, 1, 3, "Lunch", ⟨400, 2⟩, 0, ""⟩
    (∀ row ∈ rows, row.cost.precision = 2) ∧
      lowBound rows = .ok ⟨100, 2⟩ ∧ highBound rows = .ok ⟨400, 2⟩ ∧
      ∃ intervals, costIntervals rows 5 = .ok intervals ∧
        (∃ interval ∈ intervals, interval.low.atMost interval.high = false) ∧
        (∃ row ∈ rows, row.cost.atMost ⟨400, 2⟩ = false) ∧
        (intervals.map (·.count)).sum = rows.length := by
  refine ⟨by decide, by cbv, by cbv,
    [⟨⟨100, 2⟩, ⟨199, 2⟩, 1, ⟨100, 2⟩⟩, ⟨⟨200, 2⟩, ⟨299, 2⟩, 0, ⟨0, 2⟩⟩,
      ⟨⟨300, 2⟩, ⟨399, 2⟩, 0, ⟨0, 2⟩⟩, ⟨⟨400, 2⟩, ⟨499, 2⟩, 19, ⟨7650, 2⟩⟩,
      ⟨⟨500, 2⟩, ⟨400, 2⟩, 0, ⟨0, 2⟩⟩],
    by cbv, by decide, by decide, by decide⟩

/-- Every spend with a cost within the bounds is counted in exactly one of the intervals, and more
than nine tenths of all spends are counted. -/
theorem covers_costIntervals (hrows : rows ≠ [])
    (hprecision : ∀ row ∈ rows, row.cost.precision = precision) {count : Int} (hcount : 1 ≤ count) :
    ∃ low high : Int, ∃ intervals,
      lowBound rows = .ok ⟨low, precision⟩ ∧ highBound rows = .ok ⟨high, precision⟩ ∧
      costIntervals rows count = .ok intervals ∧ intervals.length = count ∧
      (∀ interval ∈ intervals, interval.HasCounted precision rows) ∧
      (∀ row ∈ rows, low ≤ row.cost.amount → row.cost.amount ≤ high →
        intervals.countP (·.contains row.cost) = 1) ∧
      9 * rows.length < 10 * (intervals.map (·.count)).sum := by
  obtain ⟨n, rfl⟩ : ∃ n : Nat, count = n + 1 := ⟨(count - 1).toNat, by omega⟩
  obtain ⟨low, high, step, hlow, hhigh, -, hstep, hintervals⟩ :=
    exists_intervals hrows hprecision n
  have honce := countP_contains_tally hprecision hstep low high n (rows.map (·.cost))
  have hsum := sum_count (fun row => low ≤ row.cost.amount ∧
    (row.cost.amount ≤ high ∨ row.cost.amount < low + n * step)) (hasCounted_tally hprecision)
    (by simpa only [decide_eq_true_eq] using honce)
  have hmost := nine_tenths_lt_countP hlow hhigh
  refine ⟨low, high, _, hlow, hhigh, hintervals, ?_, hasCounted_tally hprecision, ?_, ?_⟩
  · rw [List.length_map, length_intervalsFrom, Nat.cast_add, Nat.cast_one]
  · intro row hrow hge hle
    rw [honce row hrow, if_pos ⟨hge, .inl hle⟩]
  · rw [hsum]
    refine hmost.trans_le (Nat.mul_le_mul_left 10 (List.countP_mono_left fun row hrow hwithin => ?_))
    rw [Money.eq_mk (hprecision row hrow), Money.atMost_mk, Money.atMost_mk] at hwithin
    simp only [Bool.and_eq_true, decide_eq_true_eq] at hwithin ⊢
    exact ⟨hwithin.1, .inl hwithin.2⟩

/-- A refund and a purchase in whole units, in more intervals than there are units between them: the
steps stand still, and both are counted in the last interval. -/
theorem covers_standingSteps :
    let rows : List SpendRecord := [⟨1, 2025, 1, 2, "Refund", ⟨-3, 0⟩, 0, ""⟩,
      ⟨2, 2025, 1, 3, "Tea", ⟨1, 0⟩, 0, ""⟩]
    rows ≠ [] ∧ (∀ row ∈ rows, row.cost.precision = 0) ∧
      ∃ intervals, costIntervals rows 10 = .ok intervals ∧ intervals.length = (10 : Int) ∧
        (∀ interval ∈ intervals, interval.HasCounted 0 rows) ∧
        (∀ row ∈ rows, intervals.countP (·.contains row.cost) = 1) ∧
        9 * rows.length < 10 * (intervals.map (·.count)).sum := by
  intro rows
  have hrows : rows ≠ [] := List.cons_ne_nil _ _
  have hprecision : ∀ row ∈ rows, row.cost.precision = 0 := by decide
  obtain ⟨low, high, intervals, hlow, hhigh, hintervals, hlength, hcounted, honce, hmost⟩ :=
    covers_costIntervals hrows hprecision (by decide : (1 : Int) ≤ 10)
  have hlowBound : lowBound rows = .ok ⟨-3, 0⟩ := by cbv
  have hhighBound : highBound rows = .ok ⟨1, 0⟩ := by cbv
  rw [hlowBound] at hlow
  rw [hhighBound] at hhigh
  cases hlow
  cases hhigh
  have hwithin : ∀ row ∈ rows, -3 ≤ row.cost.amount ∧ row.cost.amount ≤ 1 := by decide
  exact ⟨hrows, hprecision, intervals, hintervals, hlength, hcounted,
    fun row hrow => honce row hrow (hwithin row hrow).1 (hwithin row hrow).2, hmost⟩

end Allowance.Statistics
