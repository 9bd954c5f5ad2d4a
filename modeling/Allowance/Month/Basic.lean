import Allowance.Money.Scale
import Allowance.SpendType.Basic

/-!
# The months of a ledger

A month owns its incomes and monthly payments and one day for each of its calendar days, and a day
owns its spends. Totals, daily budget, result and the balance of each day are derived from these.
-/

namespace Allowance

structure Income where
  id : Int
  monthId : Int
  title : String
  amount : Money
  notes : String
  deriving Repr, DecidableEq

/-- A payment that is due once in a month. -/
structure Payment where
  id : Int
  monthId : Int
  title : String
  cost : Money
  typeId : Int
  notes : String
  deriving Repr, DecidableEq

/-- A single spend; a refund has a negative cost. -/
structure Spend where
  id : Int
  dayId : Int
  title : String
  cost : Money
  typeId : Int
  notes : String
  deriving Repr, DecidableEq

/-- A day with the balance that is left of the daily budgets up to it. -/
structure Day where
  id : Int
  monthId : Int
  day : Int
  saldo : Money
  spends : List Spend
  deriving Repr, DecidableEq

structure Month where
  id : Int
  year : Int
  month : Int
  incomes : List Income
  payments : List Payment
  days : List Day
  dailyBudget : Money
  totalIncome : Money
  totalSpend : Money
  result : Money
  deriving Repr, DecidableEq

/-- A spend together with its calendar date, as a search answers it. -/
structure SpendRecord where
  id : Int
  year : Int
  month : Int
  day : Int
  title : String
  cost : Money
  typeId : Int
  notes : String
  deriving Repr, DecidableEq

/-- The date of a spend as one number, year before month before day. -/
def SpendRecord.dateKey (row : SpendRecord) : Int :=
  row.year * 10000 + row.month * 100 + row.day

end Allowance
