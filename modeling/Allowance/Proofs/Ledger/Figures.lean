import Allowance.Ledger.Aggregate
import Allowance.Proofs.Calendar.Month
import Allowance.Proofs.Money.Uniform
import Allowance.Proofs.Outcome
import Allowance.Proofs.Table

/-!
# The figures of a month

Everything that is derived for a month, in minor units: as it is stored, and as the entered rows
give it. A recomputation succeeds exactly when the figures can be stored, and then it writes them
and nothing else.
-/

namespace Allowance.Ledger

open Outcome

/-! ## Sums of what is entered -/

/-- The incomes of a month in minor units. -/
def incomeUnits (l : Ledger) (monthId : Int) : Int :=
  Table.sumFor l.incomes (·.monthId) (·.amount) monthId

/-- The monthly payments of a month in minor units. -/
def paymentUnits (l : Ledger) (monthId : Int) : Int :=
  Table.sumFor l.payments (·.monthId) (·.cost) monthId

/-- The spends of a day in minor units. -/
def spentUnits (l : Ledger) (dayId : Int) : Int :=
  Table.sumFor l.spends (·.dayId) (·.cost) dayId

/-- The days of a month, in the order of the table. -/
def daysOf (l : Ledger) (monthId : Int) : List DayRow :=
  l.days.filter (·.monthId = monthId)

/-- The number of each day of a month with what was spent on it. -/
def spentByDay (l : Ledger) (monthId : Int) : List (Int × Int) :=
  (l.daysOf monthId).map fun day => (day.id, l.spentUnits day.id)

/-- What is left of the incomes of a month once its payments are made. -/
def surplus (l : Ledger) (monthId : Int) : Int :=
  l.incomeUnits monthId - l.paymentUnits monthId

theorem mem_daysOf {l : Ledger} {monthId : Int} {day : DayRow} :
    day ∈ l.daysOf monthId ↔ day ∈ l.days ∧ day.monthId = monthId := by
  simp [daysOf]

/-! ## Figures -/

/-- The derived values of a month, and the balance of each of its days by the number of the day. -/
structure Figures where
  dailyBudget : Int
  totalIncome : Int
  totalSpend : Int
  result : Int
  saldos : List (Int × Int)

/-- Every figure fits the storage. -/
def Figures.AreStorable (f : Figures) : Prop :=
  IsStorable f.dailyBudget ∧ IsStorable f.totalIncome ∧ IsStorable f.totalSpend ∧
    IsStorable f.result ∧ ∀ saldo ∈ f.saldos, IsStorable saldo.2

/-- The running balance of days: each adds a daily budget to the balance before it and takes off
what was spent. -/
def balancesFrom (budget : Int) (balance : Int) : List (Int × Int) → List (Int × Int)
  | [] => []
  | (id, spent) :: rest =>
    (id, balance + budget - spent) :: balancesFrom budget (balance + budget - spent) rest

/-- The number of days of a month by the calendar. -/
def MonthRow.length (row : MonthRow) : Nat :=
  Calendar.monthLength row.year.toNat row.month.toNat

theorem MonthRow.length_pos (row : MonthRow) : 0 < row.length :=
  Nat.lt_of_lt_of_le (by decide) (Calendar.monthLength_bounds _ _).1

/-- The row of a month with its derived values replaced. -/
def MonthRow.withFigures (row : MonthRow) (f : Figures) : MonthRow :=
  { row with
    dailyBudget := f.dailyBudget
    totalIncome := f.totalIncome
    totalSpend := f.totalSpend
    result := f.result }

/-- The figures of a month as they are stored. -/
def stored (l : Ledger) (row : MonthRow) : Figures where
  dailyBudget := row.dailyBudget
  totalIncome := row.totalIncome
  totalSpend := row.totalSpend
  result := row.result
  saldos := (l.daysOf row.id).map fun day => (day.id, day.saldo)

/-- The figures of a month as its incomes, payments and spends give them. -/
def computed (l : Ledger) (row : MonthRow) : Figures where
  dailyBudget := (l.surplus row.id).tdiv row.length
  totalIncome := l.incomeUnits row.id
  totalSpend := -l.paymentUnits row.id - ((l.spentByDay row.id).map Prod.snd).sum
  result := l.surplus row.id - ((l.spentByDay row.id).map Prod.snd).sum
  saldos := balancesFrom ((l.surplus row.id).tdiv row.length) 0 (l.spentByDay row.id)

/-- The ledger with the figures of a month written. -/
def withFigures (l : Ledger) (monthId : Int) (f : Figures) : Ledger :=
  { l with
    months := Table.modify l.months monthId (·.withFigures f)
    days := l.days.map (withBalance f.saldos) }

theorem balancesFrom_keys (budget balance : Int) (spent : List (Int × Int)) :
    (balancesFrom budget balance spent).map Prod.fst = spent.map Prod.fst := by
  induction spent generalizing balance with
  | nil => rfl
  | cons head rest ih => simp [balancesFrom, ih]

theorem computed_keys (l : Ledger) (row : MonthRow) :
    (l.computed row).saldos.map Prod.fst = (l.daysOf row.id).map (·.id) := by
  rw [computed, balancesFrom_keys, spentByDay, List.map_map]
  rfl

/-- The figures depend on the entered rows of the month alone. -/
theorem computed_congr {l other : Ledger} {row : MonthRow}
    (hincome : other.incomeUnits row.id = l.incomeUnits row.id)
    (hpayment : other.paymentUnits row.id = l.paymentUnits row.id)
    (hspent : other.spentByDay row.id = l.spentByDay row.id) :
    other.computed row = l.computed row := by
  simp only [computed, surplus, hincome, hpayment, hspent]

/-! ## Recomputing in minor units -/

@[simp] theorem money_precision (l : Ledger) (amount : Int) :
    (l.money amount).precision = l.precision :=
  rfl

theorem units_money {l : Ledger} {amount result : Int} :
    l.units (l.money amount) = .ok result ↔ IsStorable amount ∧ result = amount := by
  simp [units, money, -bind_pure_comp, bind_eq_ok, pure_eq_ok, requireStorable_eq_ok]

/-- A sum of stored amounts is the money of the sum of their minor units. -/
theorem totalAt_units {α : Type} (l : Ledger) (rows : List α) (amount : α → Int) :
    Money.totalAt l.precision (rows.map fun row => l.money (amount row)) =
      .ok (l.money (rows.map amount).sum) := by
  have htotal := Money.totalAt_mk l.precision (rows.map amount)
  rw [List.map_map] at htotal
  exact htotal

theorem dayOf_spent (l : Ledger) (row : DayRow) :
    (l.dayOf row).spent l.precision = l.money (l.spentUnits row.id) := by
  have htotal := Money.total_mk l.precision ((l.spends.filter (·.dayId = row.id)).map (·.cost))
  rw [List.map_map] at htotal
  simp only [Day.spent, dayOf, List.map_map]
  exact htotal

theorem cascadeFrom_dayOf_cons (l : Ledger) (budget balance : Int) (day : DayRow)
    (rest : List Day) :
    cascadeFrom (l.money budget) (l.money balance) (l.dayOf day :: rest) =
      { l.dayOf day with saldo := l.money (balance + budget - l.spentUnits day.id) } ::
        cascadeFrom (l.money budget) (l.money (balance + budget - l.spentUnits day.id)) rest := by
  have hsaldo : l.money balance + l.money budget - (l.dayOf day).spent l.precision =
      l.money (balance + budget - l.spentUnits day.id) := by
    rw [dayOf_spent]
    simp only [money, Money.add_mk, Money.sub_mk]
  simp only [cascadeFrom, money_precision, hsaldo]

theorem cascadeFrom_saldos (l : Ledger) (budget balance : Int) (days : List DayRow) :
    (cascadeFrom (l.money budget) (l.money balance) (days.map l.dayOf)).map
        (fun day => (day.id, day.saldo)) =
      (balancesFrom budget balance (days.map fun day => (day.id, l.spentUnits day.id))).map
        fun saldo => (saldo.1, l.money saldo.2) := by
  induction days generalizing balance with
  | nil => rfl
  | cons day rest ih =>
      rw [List.map_cons, cascadeFrom_dayOf_cons, List.map_cons, ih]
      rfl

/-- Days whose stored balances are the running ones stay as they are. -/
theorem cascadeFrom_eq_self {l : Ledger} {budget balance : Int} {days : List DayRow}
    (hsaldos : days.map (fun day => (day.id, day.saldo)) =
      balancesFrom budget balance (days.map fun day => (day.id, l.spentUnits day.id))) :
    cascadeFrom (l.money budget) (l.money balance) (days.map l.dayOf) = days.map l.dayOf := by
  induction days generalizing balance with
  | nil => rfl
  | cons day rest ih =>
      simp only [List.map_cons, balancesFrom, List.cons.injEq, Prod.mk.injEq, true_and] at hsaldos
      rw [List.map_cons, cascadeFrom_dayOf_cons, ih hsaldos.2, ← hsaldos.1]
      rfl

/-- Recomputing a month of a ledger gives the money of its figures. -/
theorem recompute_monthOf {l : Ledger} {row : MonthRow}
    (hlength : Calendar.daysInMonth row.year row.month = .ok row.length) :
    (l.monthOf row).recompute none l.precision =
      .ok { l.monthOf row with
        totalIncome := l.money (l.computed row).totalIncome
        totalSpend := l.money (l.computed row).totalSpend
        dailyBudget := l.money (l.computed row).dailyBudget
        result := l.money (l.computed row).result
        days := cascade ((l.daysOf row.id).map l.dayOf)
          (l.money (l.computed row).dailyBudget) } := by
  have hincome :
      (l.monthOf row).incomeTotal l.precision = .ok (l.money (l.incomeUnits row.id)) := by
    simp only [Month.incomeTotal, monthOf, List.map_map]
    exact l.totalAt_units _ IncomeRow.amount
  have hpayment : (l.monthOf row).paymentsCost l.precision =
      .ok (l.money (-l.paymentUnits row.id)) := by
    simp only [Month.paymentsCost, monthOf, List.map_map]
    have htotal := l.totalAt_units (l.payments.filter (·.monthId = row.id)) PaymentRow.cost
    exact congrArg (Except.map (-·)) htotal
  have hspent : (l.monthOf row).daysSpent l.precision =
      .ok ((l.daysOf row.id).map fun day => l.money (l.spentUnits day.id)) := by
    rw [Month.daysSpent, mapM_eq_ok]
    simp only [monthOf, List.map_map]
    apply List.map_congr_left
    intro day _
    simp only [Function.comp_apply, dayOf, List.map_map]
    exact l.totalAt_units _ SpendRow.cost
  -- The payments and the spends of a month are negative, the surplus subtracts both.
  have hspends : (l.monthOf row).spendsCost l.precision =
      .ok (l.money (-((l.spentByDay row.id).map Prod.snd).sum)) := by
    rw [Month.spendsCost, hspent]
    change (do return -(← Money.totalAt l.precision _)) = _
    rw [totalAt_units]
    simp only [spentByDay, List.map_map]
    rfl
  have hpositive : (0 : Int) < row.length := Int.natCast_pos.mpr row.length_pos
  have hbudget : dailyAllowance (l.money (l.incomeUnits row.id))
      (l.money (-l.paymentUnits row.id)) row.length =
        .ok (l.money (l.computed row).dailyBudget) := by
    simp only [dailyAllowance, money, Money.add_mk, Money.divide_mk _ _ hpositive, computed,
      surplus, Int.sub_eq_add_neg]
  have hdivisor : (l.monthOf row).divisor none = .ok (row.length : Int) := by
    change (Calendar.daysInMonth row.year row.month).map Int.ofNat = _
    rw [hlength]
    rfl
  rw [Month.recompute, hincome, hpayment, hspends, hdivisor]
  change (do
    let dailyBudget ← dailyAllowance _ _ _
    _) = _
  rw [hbudget]
  change Except.ok _ = _
  simp only [money, Money.add_mk, computed, surplus]
  congr 3
  omega

end Allowance.Ledger
