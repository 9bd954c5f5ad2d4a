import Mathlib.Data.List.Sort
import Allowance.Proofs.Money.Arithmetic
import Allowance.Statistics.Costs

/-!
# The rank of a percentile

A percentile of ascending amounts is the one at the nearest rank: fewer of them than its share are
smaller, and no fewer than its share are at most as large. A share of nothing or less has the first
amount and a share of all or more the last one.
-/

namespace Allowance.Money

theorem ascending_perm (costs : List Money) : (ascending costs).Perm costs :=
  List.mergeSort_perm costs _

theorem pairwise_ascending (costs : List Money) :
    (ascending costs).Pairwise (fun a b => a.value ≤ b.value) := by
  have hle (a b : Money) : (!less b a) = true ↔ a.value ≤ b.value := by
    rw [Bool.not_eq_true', ← Bool.not_eq_true, less_iff, not_lt]
  refine (List.pairwise_mergeSort ?_ ?_ costs).imp fun {a b} => (hle a b).mp
  · intro a b c hab hbc
    rw [hle] at *
    exact hab.trans hbc
  · intro a b
    rw [Bool.or_eq_true, hle, hle]
    exact le_total _ _

section Ranks

variable {before after : List Money} {cost : Money}
  (hsorted : (before ++ cost :: after).Pairwise (fun a b => a.value ≤ b.value))

include hsorted

/-- Only amounts that precede an amount are smaller. -/
theorem countP_less_le : (before ++ cost :: after).countP (·.less cost) ≤ before.length := by
  have hrest : (cost :: after).countP (·.less cost) = 0 := by
    rw [List.countP_eq_zero]
    intro other hother
    rw [less_iff, not_lt]
    rcases List.mem_cons.mp hother with rfl | hafter
    · exact le_rfl
    · exact List.rel_of_pairwise_cons (List.pairwise_append.mp hsorted).2.1 hafter
  rw [List.countP_append, hrest, Nat.add_zero]
  exact List.countP_le_length

/-- No amount that precedes an amount is larger, and neither is the amount itself. -/
theorem lt_countP_atMost : before.length < (before ++ cost :: after).countP (·.atMost cost) := by
  have hbefore : before.countP (·.atMost cost) = before.length := by
    rw [List.countP_eq_length]
    intro other hother
    exact (atMost_iff other cost).mpr
      ((List.pairwise_append.mp hsorted).2.2 other hother cost List.mem_cons_self)
  have hself : 0 < (cost :: after).countP (·.atMost cost) :=
    List.countP_pos_iff.mpr ⟨cost, List.mem_cons_self, (atMost_iff cost cost).mpr le_rfl⟩
  rw [List.countP_append, hbefore]
  omega

end Ranks

end Allowance.Money

namespace Allowance.Statistics

/-! ## Positions -/

theorem percentileIndex_eq (percent : Int) (count : Nat) :
    percentileIndex percent count = min (-(-percent * count / 100) - 1).toNat (count - 1) := by
  rw [percentileIndex, Int.fdiv_eq_ediv_of_nonneg _ (by decide)]

theorem percentileIndex_lt {count : Nat} (hcount : 0 < count) (percent : Int) :
    percentileIndex percent count < count := by
  rw [percentileIndex_eq]
  omega

theorem percentileIndex_mono {low high : Int} (h : low ≤ high) (count : Nat) :
    percentileIndex low count ≤ percentileIndex high count := by
  have hproduct : -high * count ≤ -low * count :=
    Int.mul_le_mul_of_nonneg_right (Int.neg_le_neg h) (Int.natCast_nonneg count)
  rw [percentileIndex_eq, percentileIndex_eq]
  omega

/-- The position of a percentile is that of its share of the amounts, rounded up. -/
theorem percentileIndex_bounds {count : Nat} (hcount : 0 < count) {percent : Int}
    (hlow : 1 ≤ percent) (hhigh : percent ≤ 100) :
    100 * (percentileIndex percent count : Int) < percent * count ∧
      percent * count ≤ 100 * (percentileIndex percent count + 1) := by
  have hpos : 0 < percent * count := Int.mul_pos (by omega) (by omega)
  have hle : percent * count ≤ 100 * count :=
    Int.mul_le_mul_of_nonneg_right hhigh (Int.natCast_nonneg count)
  rw [percentileIndex_eq, Int.neg_mul]
  omega

/-- Up to a share of nothing, the position is the first one. -/
theorem percentileIndex_of_nonpos {percent : Int} (h : percent ≤ 0) (count : Nat) :
    percentileIndex percent count = 0 := by
  have hproduct : 0 ≤ -percent * count := Int.mul_nonneg (by omega) (Int.natCast_nonneg count)
  rw [percentileIndex_eq]
  omega

/-- From a share of all amounts on, the position is the last one. -/
theorem percentileIndex_of_hundred_le {percent : Int} (h : 100 ≤ percent) (count : Nat) :
    percentileIndex percent count = count - 1 := by
  have hproduct : -percent * count ≤ -100 * count :=
    Int.mul_le_mul_of_nonneg_right (Int.neg_le_neg h) (Int.natCast_nonneg count)
  rw [percentileIndex_eq]
  omega

/-! ## The law of the nearest rank -/

variable {costs : List Money}

/-- An amount at the nearest rank of a share: fewer amounts than the share are smaller, and no fewer
are at most as large. -/
structure HasRank (costs : List Money) (percent : Int) (cost : Money) : Prop where
  smaller : 100 * (costs.countP (·.less cost) : Int) < percent * costs.length
  atMost : percent * costs.length ≤ 100 * (costs.countP (·.atMost cost) : Int)

/-- A larger share has no smaller amount at its rank, so amounts at one rank have one value. -/
theorem HasRank.value_le {low high : Int} {first last : Money} (hfirst : HasRank costs low first)
    (hlast : HasRank costs high last) (h : low ≤ high) : first.value ≤ last.value := by
  by_contra hnot
  -- What is at most as large as the last amount would then be smaller than the first one.
  have hcount : costs.countP (·.atMost last) ≤ costs.countP (·.less first) := by
    apply List.countP_mono_left
    intro cost _ hcost
    rw [Money.less_iff]
    exact ((Money.atMost_iff cost last).mp hcost).trans_lt (not_le.mp hnot)
  have hshare : low * costs.length ≤ high * costs.length :=
    Int.mul_le_mul_of_nonneg_right h (Int.natCast_nonneg _)
  have hsmaller := hfirst.smaller
  have hatMost := hlast.atMost
  omega

/-! ## Percentiles -/

theorem percentile_eq_ok {percent : Int} {cost : Money} :
    percentile costs percent = .ok cost ↔
      costs[percentileIndex percent costs.length]? = some cost := by
  unfold percentile
  cases costs[percentileIndex percent costs.length]? <;> simp

/-- Among any amounts there is a percentile. -/
theorem exists_percentile (hcosts : costs ≠ []) (percent : Int) :
    ∃ cost ∈ costs, percentile costs percent = .ok cost := by
  have hindex := percentileIndex_lt (List.length_pos_of_ne_nil hcosts) percent
  exact ⟨_, List.getElem_mem hindex, percentile_eq_ok.mpr (List.getElem?_eq_getElem hindex)⟩

section Ascending

variable (hsorted : costs.Pairwise (fun a b => a.value ≤ b.value))

include hsorted

/-- A larger share has no smaller percentile. -/
theorem percentile_mono {low high : Int} (h : low ≤ high) {first last : Money}
    (hfirst : percentile costs low = .ok first) (hlast : percentile costs high = .ok last) :
    first.value ≤ last.value := by
  rw [percentile_eq_ok] at hfirst hlast
  rcases (percentileIndex_mono h costs.length).lt_or_eq with hlt | heq
  · obtain ⟨hi, rfl⟩ := List.getElem?_eq_some_iff.mp hfirst
    obtain ⟨hj, rfl⟩ := List.getElem?_eq_some_iff.mp hlast
    exact List.pairwise_iff_getElem.mp hsorted _ _ hi hj hlt
  · rw [heq, hlast] at hfirst
    exact (congrArg Money.value (Option.some.inj hfirst)).ge

/-- A percentile has the rank of its share. -/
theorem hasRank_percentile {percent : Int} (hlow : 1 ≤ percent) (hhigh : percent ≤ 100)
    {cost : Money} (hcost : percentile costs percent = .ok cost) : HasRank costs percent cost := by
  obtain ⟨hindex, hget⟩ := List.getElem?_eq_some_iff.mp (percentile_eq_ok.mp hcost)
  have hpos : 0 < costs.length := by omega
  obtain ⟨hbelow, habove⟩ := percentileIndex_bounds hpos hlow hhigh
  have hsplit : costs = costs.take (percentileIndex percent costs.length) ++ cost ::
      costs.drop (percentileIndex percent costs.length + 1) := by
    rw [← hget, ← List.drop_eq_getElem_cons, List.take_append_drop]
  have hlength : (costs.take (percentileIndex percent costs.length)).length =
      percentileIndex percent costs.length := List.length_take_of_le hindex.le
  have hless := Money.countP_less_le (hsplit ▸ hsorted)
  have hatMost := Money.lt_countP_atMost (hsplit ▸ hsorted)
  rw [← hsplit, hlength] at hless hatMost
  constructor <;> omega

end Ascending

/-- Any share of ascending amounts has a percentile. From one to a hundred percent this is the one
value at the nearest rank, up to nothing the first amount, and from a hundred percent on the last
one. A larger share has no smaller percentile. -/
theorem percentile_isNearestRank (hcosts : costs ≠ [])
    (hsorted : costs.Pairwise (fun a b => a.value ≤ b.value)) (percent : Int) :
    percentileIndex percent costs.length < costs.length ∧
      ∃ cost ∈ costs, percentile costs percent = .ok cost ∧
        (1 ≤ percent → percent ≤ 100 → HasRank costs percent cost ∧
          ∀ other, HasRank costs percent other → other.value = cost.value) ∧
        (percent ≤ 0 → costs.head? = some cost) ∧
        (100 ≤ percent → costs.getLast? = some cost) ∧
        ∀ larger, percent ≤ larger →
          ∃ next, percentile costs larger = .ok next ∧ cost.value ≤ next.value := by
  obtain ⟨cost, hmem, hcost⟩ := exists_percentile hcosts percent
  have hget := percentile_eq_ok.mp hcost
  refine ⟨percentileIndex_lt (List.length_pos_of_ne_nil hcosts) percent, cost, hmem, hcost,
    fun hlow hhigh => ?_, fun hnonpos => ?_, fun hall => ?_, fun larger hle => ?_⟩
  · have hrank := hasRank_percentile hsorted hlow hhigh hcost
    refine ⟨hrank, fun other hother => ?_⟩
    exact le_antisymm (hother.value_le hrank le_rfl) (hrank.value_le hother le_rfl)
  · rw [List.head?_eq_getElem?, ← percentileIndex_of_nonpos hnonpos costs.length, hget]
  · rw [List.getLast?_eq_getElem?, ← percentileIndex_of_hundred_le hall, hget]
  · obtain ⟨next, -, hnext⟩ := exists_percentile hcosts larger
    exact ⟨next, hnext, percentile_mono hsorted hle hcost hnext⟩

/-- A refund and four purchases, two of them of one value at two precisions. Just above two fifths
begins the rank of the second of these. -/
theorem percentile_repeatedCosts :
    let costs : List Money := [⟨-250, 2⟩, ⟨100, 2⟩, ⟨1000, 3⟩, ⟨450, 2⟩, ⟨450, 2⟩]
    costs ≠ [] ∧ costs.Pairwise (fun a b => a.value ≤ b.value) ∧
      percentileIndex 41 costs.length < costs.length ∧
      (percentile costs 41 = .ok ⟨1000, 3⟩ ∧ HasRank costs 41 ⟨1000, 3⟩) ∧
      percentile costs (-7) = .ok ⟨-250, 2⟩ ∧ percentile costs 250 = .ok ⟨450, 2⟩ := by
  intro costs
  have hcosts : costs ≠ [] := List.cons_ne_nil _ _
  have hatMost : costs.Pairwise (fun a b => a.atMost b = true) := by decide
  have hsorted : costs.Pairwise (fun a b => a.value ≤ b.value) :=
    hatMost.imp fun {a b} => (Money.atMost_iff a b).mp
  obtain ⟨hindex, middle, -, hmiddle, hrank, -⟩ := percentile_isNearestRank hcosts hsorted 41
  obtain ⟨-, first, -, hfirst, -, hhead, -⟩ := percentile_isNearestRank hcosts hsorted (-7)
  obtain ⟨-, last, -, hlast, -, -, hend, -⟩ := percentile_isNearestRank hcosts hsorted 250
  have hvalue : percentile costs 41 = .ok ⟨1000, 3⟩ := by cbv
  rw [hvalue] at hmiddle
  cases hmiddle
  cases hhead (by decide)
  cases hend (by decide)
  exact ⟨hcosts, hsorted, hindex, ⟨hvalue, (hrank (by decide) (by decide)).1⟩, hfirst, hlast⟩

end Allowance.Statistics
