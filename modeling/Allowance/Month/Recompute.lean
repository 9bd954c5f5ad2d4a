import Allowance.Calendar.Month
import Allowance.Month.Basic

/-!
# Recomputing a month

The derived fields of a month: its totals, the daily budget, the result and the balance of every
day. Each day adds one daily budget to the balance of the day before and takes off what was spent.
-/

namespace Allowance

/-- What was spent on a day; refunds reduce it. -/
def Day.spent (day : Day) (precision : Nat) : Money :=
  Money.total precision (day.spends.map (·.cost))

/-- The days with the running balance, from the balance before the first of them. -/
def cascadeFrom (dailyBudget : Money) (balance : Money) : List Day → List Day
  | [] => []
  | day :: rest =>
    let saldo := balance + dailyBudget - day.spent dailyBudget.precision
    { day with saldo } :: cascadeFrom dailyBudget saldo rest

/-- The days with the balance that a daily budget leaves on each. -/
def cascade (days : List Day) (dailyBudget : Money) : List Day :=
  cascadeFrom dailyBudget (Money.zero dailyBudget.precision) days

/-- The even allowance for each of a number of days. -/
def dailyAllowance (income paymentsCost : Money) (days : Int) : Except Failure Money :=
  (income + paymentsCost).divide days

namespace Month

def incomeTotal (m : Month) (precision : Int) : Except Failure Money :=
  Money.totalAt precision (m.incomes.map (·.amount))

/-- The cost of all monthly payments as a negative amount. -/
def paymentsCost (m : Month) (precision : Int) : Except Failure Money :=
  (Money.totalAt precision (m.payments.map (·.cost))).map (-·)

def daysSpent (m : Month) (precision : Int) : Except Failure (List Money) :=
  m.days.mapM fun day => Money.totalAt precision (day.spends.map (·.cost))

/-- The cost of all spends as a negative amount. -/
def spendsCost (m : Month) (precision : Int) : Except Failure Money := do
  return -(← Money.totalAt precision (← m.daysSpent precision))

/-- The number of days that share the budget: the given one, or all days of the month. -/
def divisor (m : Month) : Option Int → Except Failure Int
  | some days => .ok days
  | none => (Calendar.daysInMonth m.year m.month).map Int.ofNat

/-- The month with all derived fields computed anew. Empty sums are zero at the given precision. -/
def recompute (m : Month) (days : Option Int) (precision : Int) : Except Failure Month := do
  let totalIncome ← m.incomeTotal precision
  let paymentsCost ← m.paymentsCost precision
  let dailyBudget ← dailyAllowance totalIncome paymentsCost (← m.divisor days)
  let totalSpend := paymentsCost + (← m.spendsCost precision)
  return { m with
    totalIncome
    totalSpend
    dailyBudget
    result := totalIncome + totalSpend
    days := cascade m.days dailyBudget }

/-- Whether the derived fields of two months have the same values. -/
def sameDerived (a b : Month) : Bool :=
  a.totalIncome.same b.totalIncome && a.totalSpend.same b.totalSpend &&
    a.dailyBudget.same b.dailyBudget && a.result.same b.result &&
    a.days.length == b.days.length &&
    (a.days.zip b.days).all fun (x, y) => x.saldo.same y.saldo

/-- Whether recomputing a month leaves its derived fields as they are. -/
def isSettled (m : Month) (days : Option Int) (precision : Int) : Except Failure Bool :=
  (m.recompute days precision).map m.sameDerived

end Month

end Allowance
