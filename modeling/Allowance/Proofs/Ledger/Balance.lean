import Mathlib.Tactic.Ring
import Allowance.Proofs.Ledger.Settlement

/-!
# Balances and the result of a month

The balance of a day is the daily budget of all days so far without what was spent on them. On the
last day it is the result of the month, up to the part of the surplus that the daily budget leaves
out because it is truncated toward zero.
-/

namespace Allowance.Ledger

/-- The spends of a month up to a day, that day included. -/
def spentThrough (l : Ledger) (monthId day : Int) : Int :=
  (((l.daysOf monthId).filter (·.day ≤ day)).map fun row => l.spentUnits row.id).sum

/-- What is left of a surplus that is shared out evenly among days. -/
def undistributed (surplus : Int) (days : Nat) : Int :=
  surplus - days * surplus.tdiv days

/-! ## The remainder of a daily budget -/

theorem undistributed_eq_tmod (surplus : Int) (days : Nat) :
    undistributed surplus days = surplus.tmod days := by
  have hdivision := Int.mul_tdiv_add_tmod surplus days
  unfold undistributed
  omega

theorem undistributed_natAbs_lt (surplus : Int) {days : Nat} (hdays : 0 < days) :
    (undistributed surplus days).natAbs < days := by
  rw [undistributed_eq_tmod, Int.natAbs_tmod]
  exact Nat.mod_lt _ hdays

/-- What is left out of a surplus is positive and of a deficit negative, if there is anything. -/
theorem undistributed_sign (surplus : Int) (days : Nat) :
    undistributed surplus days = 0 ∨ (undistributed surplus days).sign = surplus.sign := by
  rw [undistributed_eq_tmod]
  by_cases hdvd : (days : Int) ∣ surplus
  · exact .inl (Int.tmod_eq_zero_of_dvd hdvd)
  · right
    rw [Int.sign_tmod, if_neg hdvd]

/-! ## Balances -/

variable {l : Ledger}

/-- Running balances are closed sums: of days numbered from a first one on, each has the budget of
the days up to it and the spends of the same days. -/
theorem saldo_eq_of_balances {budget balance first : Int} {days : List DayRow}
    (hnumbers : days.map (·.day) = (List.range days.length).map fun i : Nat => first + (i : Int))
    (hsaldos : days.map (fun day => (day.id, day.saldo)) =
      balancesFrom budget balance (days.map fun day => (day.id, l.spentUnits day.id)))
    {day : DayRow} (hday : day ∈ days) :
    day.saldo = balance + (day.day - first + 1) * budget -
      ((days.filter (·.day ≤ day.day)).map fun row => l.spentUnits row.id).sum := by
  -- Along the days, the balance brought forward and the number to come move on together.
  induction days generalizing balance first with
  | nil => cases hday
  | cons head rest ih =>
      simp only [List.map_cons, balancesFrom, List.cons.injEq, Prod.mk.injEq, true_and] at hsaldos
      obtain ⟨hsaldo, hrestSaldos⟩ := hsaldos
      simp only [List.length_cons, List.range_succ_eq_map, List.map_cons, List.map_map,
        List.cons.injEq] at hnumbers
      obtain ⟨hfirst, hrestNumbers⟩ := hnumbers
      have hhead : head.day = first := by simpa using hfirst
      have hrest : rest.map (·.day) =
          (List.range rest.length).map fun i : Nat => first + 1 + (i : Int) := by
        rw [hrestNumbers]
        apply List.map_congr_left
        intro i _
        simp only [Function.comp_apply, Nat.succ_eq_add_one]
        omega
      -- The days that follow have larger numbers, so that the filter cuts the list in two.
      have hlater {other : DayRow} (hother : other ∈ rest) : first < other.day := by
        have hmem := List.mem_map_of_mem (f := (·.day)) hother
        rw [hrest] at hmem
        obtain ⟨i, _, hi⟩ := List.mem_map.mp hmem
        omega
      rcases List.mem_cons.mp hday with rfl | hmem
      · have hnone : rest.filter (·.day ≤ day.day) = [] := by
          rw [List.filter_eq_nil_iff]
          intro other hother
          have := hlater hother
          simp only [decide_eq_true_eq]
          omega
        rw [List.filter_cons_of_pos (by simp), hnone, hsaldo, hhead]
        simp
      · have hle : head.day ≤ day.day := by
          have := hlater hmem
          omega
        rw [List.filter_cons_of_pos (by simpa using hle), List.map_cons, List.sum_cons,
          ih hrest hrestSaldos hmem]
        ring

/-- The balance of a day of a settled month. -/
theorem SettledAt.saldo_eq {row : MonthRow} (hsettled : l.SettledAt row)
    (hcalendar : l.FollowsCalendar row) {day : DayRow} (hday : day ∈ l.daysOf row.id) :
    day.saldo = day.day * row.dailyBudget - l.spentThrough row.id day.day := by
  have hnumbers : (l.daysOf row.id).map (·.day) =
      (List.range (l.daysOf row.id).length).map fun i : Nat => 1 + (i : Int) := by
    have hlength := congrArg List.length hcalendar.2
    simp only [List.length_map, List.length_range] at hlength
    rw [hcalendar.2, hlength]
    simp only [Int.add_comm]
  have hsaldos : (l.daysOf row.id).map (fun day => (day.id, day.saldo)) =
      balancesFrom (l.computed row).dailyBudget 0 (l.spentByDay row.id) :=
    congrArg Figures.saldos hsettled.stored_eq
  have hbudget : row.dailyBudget = (l.computed row).dailyBudget :=
    congrArg Figures.dailyBudget hsettled.stored_eq
  rw [saldo_eq_of_balances hnumbers hsaldos hday, hbudget, spentThrough]
  ring

/-- All spends of a month are those up to its last day. -/
theorem FollowsCalendar.spentThrough_length {row : MonthRow} (h : l.FollowsCalendar row) :
    l.spentThrough row.id row.length = ((l.spentByDay row.id).map Prod.snd).sum := by
  have hall : (l.daysOf row.id).filter (·.day ≤ (row.length : Int)) = l.daysOf row.id := by
    rw [List.filter_eq_self]
    intro day hday
    have hmem := List.mem_map_of_mem (f := (·.day)) hday
    rw [h.2] at hmem
    obtain ⟨i, hi, hnumber⟩ := List.mem_map.mp hmem
    have := List.mem_range.mp hi
    simp only [decide_eq_true_eq]
    omega
  rw [spentThrough, hall, spentByDay, List.map_map]
  rfl

theorem SettledAt.result_sub_saldo {row : MonthRow} (hsettled : l.SettledAt row)
    (hcalendar : l.FollowsCalendar row) {day : DayRow} (hday : day ∈ l.daysOf row.id)
    (hlast : day.day = row.length) :
    row.result - day.saldo = l.surplus row.id - row.length * row.dailyBudget := by
  have hresult : row.result = l.surplus row.id - ((l.spentByDay row.id).map Prod.snd).sum :=
    congrArg Figures.result hsettled.stored_eq
  rw [hsettled.saldo_eq hcalendar hday, hlast, hcalendar.spentThrough_length, hresult]
  ring

/-- After every run of a new ledger, a month has a day for each number up to its length. The balance
of a day is that many daily budgets without the spends up to it. The result of the month differs
from the last balance by what the daily budget leaves out of the surplus: less than a minor unit for
each day, and nothing against the sign of the surplus. -/
theorem balances_run (currency : Currency) (operations : List Operation) :
    let l := (Ledger.empty currency).run operations
    ∀ row ∈ l.months,
      (l.daysOf row.id).map (·.day) = (List.range row.length).map (fun i : Nat => (i : Int) + 1) ∧
      (∀ day ∈ l.daysOf row.id,
        day.saldo = day.day * row.dailyBudget - l.spentThrough row.id day.day) ∧
      ∃ r : Int, r = l.surplus row.id - row.length * row.dailyBudget ∧
        (∀ day ∈ l.daysOf row.id, day.day = row.length → row.result - day.saldo = r) ∧
        r.natAbs < row.length ∧ (r = 0 ∨ r.sign = (l.surplus row.id).sign) := by
  intro l row hrow
  have hsound : Sound l := (Sound.empty currency).run operations
  have hsettled := hsound.settled row hrow
  have hcalendar := hsound.integrity.calendar row hrow
  have hbudget : row.dailyBudget = (l.surplus row.id).tdiv row.length :=
    congrArg Figures.dailyBudget hsettled.stored_eq
  refine ⟨hcalendar.2, fun day hday => hsettled.saldo_eq hcalendar hday,
    undistributed (l.surplus row.id) row.length, ?_, ?_, undistributed_natAbs_lt _ row.length_pos,
    undistributed_sign _ _⟩
  · rw [hbudget]
    rfl
  · intro day hday hlast
    rw [hsettled.result_sub_saldo hcalendar hday hlast, hbudget]
    rfl

/-- A month whose deficit is not a multiple of its days, with a spend on the last one. -/
def unevenDeficit : List Operation :=
  [⟨.openMonth 2023 2⟩, ⟨.addIncome ⟨1, "Pay", ⟨1000, 0⟩, ""⟩⟩,
    ⟨.addPayment ⟨1, "Rent", ⟨1030, 0⟩, 0, ""⟩⟩,
    ⟨.addSpend ⟨28, "Tea", ⟨3, 0⟩, 0, "", .positive⟩⟩]

theorem balances_unevenDeficit :
    let l := (Ledger.empty .jpy).run unevenDeficit
    ∃ row ∈ l.months, row = ⟨1, 2023, 2, -1, 1000, -1033, -33⟩ ∧
      ∃ day ∈ l.daysOf 1, day = ⟨28, 1, 28, -31⟩ ∧
        day.saldo = 28 * -1 - l.spentThrough 1 28 ∧
        row.result - day.saldo = l.surplus 1 - 28 * -1 := by
  intro l
  have hrow : ⟨1, 2023, 2, -1, 1000, -1033, -33⟩ ∈ l.months := by
    decide +kernel
  have hday : ⟨28, 1, 28, -31⟩ ∈ l.daysOf 1 := by
    decide +kernel
  obtain ⟨_, hsaldo, r, hr, hlast, _, _⟩ := balances_run .jpy unevenDeficit _ hrow
  exact ⟨_, hrow, rfl, _, hday, rfl, hsaldo _ hday, (hlast _ hday rfl).trans hr⟩

end Allowance.Ledger
