import Allowance.Ledger.Basic
import Allowance.Month.Recompute

/-!
# Months of a ledger as a whole

A month is loaded with everything that belongs to it, and its derived fields are written back after
a recomputation.
-/

namespace Allowance.Ledger

def incomeOf (l : Ledger) (row : IncomeRow) : Income :=
  ⟨row.id, row.monthId, row.title, l.money row.amount, row.notes⟩

def paymentOf (l : Ledger) (row : PaymentRow) : Payment :=
  ⟨row.id, row.monthId, row.title, l.money row.cost, row.typeId, row.notes⟩

def spendOf (l : Ledger) (row : SpendRow) : Spend :=
  ⟨row.id, row.dayId, row.title, l.money row.cost, row.typeId, row.notes⟩

def dayOf (l : Ledger) (row : DayRow) : Day :=
  ⟨row.id, row.monthId, row.day, l.money row.saldo,
    (l.spends.filter (·.dayId = row.id)).map l.spendOf⟩

/-- A month without what belongs to it. -/
def bareMonth (l : Ledger) (row : MonthRow) : Month where
  id := row.id
  year := row.year
  month := row.month
  incomes := []
  payments := []
  days := []
  dailyBudget := l.money row.dailyBudget
  totalIncome := l.money row.totalIncome
  totalSpend := l.money row.totalSpend
  result := l.money row.result

def monthOf (l : Ledger) (row : MonthRow) : Month :=
  { l.bareMonth row with
    incomes := (l.incomes.filter (·.monthId = row.id)).map l.incomeOf
    payments := (l.payments.filter (·.monthId = row.id)).map l.paymentOf
    days := (l.days.filter (·.monthId = row.id)).map l.dayOf }

def loadMonth (l : Ledger) (id : Int) : Except Failure Month :=
  (require l.months .month id).map l.monthOf

/-- The balances of days in minor units, by the number of the day. -/
def balances (l : Ledger) (days : List Day) : Except Failure (List (Int × Int)) :=
  days.mapM fun day => do return (day.id, ← l.units day.saldo)

/-- The row of a day with its balance taken from a list, if the list has one. -/
def withBalance (saldos : List (Int × Int)) (row : DayRow) : DayRow :=
  match saldos.lookup row.id with
  | some saldo => { row with saldo }
  | none => row

/-- The ledger with the derived fields of a month and its days written. -/
def saveMonth (l : Ledger) (month : Month) : Except Failure Ledger := do
  let dailyBudget ← l.units month.dailyBudget
  let totalIncome ← l.units month.totalIncome
  let totalSpend ← l.units month.totalSpend
  let result ← l.units month.result
  let saldos ← l.balances month.days
  return { l with
    months := Table.modify l.months month.id fun row =>
      { row with dailyBudget, totalIncome, totalSpend, result }
    days := l.days.map (withBalance saldos) }

/-- The ledger with a month recomputed, and the month as it then is. -/
def settle (l : Ledger) (monthId : Int) : Except Failure (Ledger × Month) := do
  let month ← (← l.loadMonth monthId).recompute none l.precision
  return (← l.saveMonth month, month)

end Allowance.Ledger
