import Allowance.Calendar.Date
import Allowance.Month.Basic

/-!
# Spending by day

The amount spent on each day of a period and on each other day that has spends.
-/

namespace Allowance.Statistics

/-- The calendar day and the cost of each spend. Looking at a spend needs a zero at the precision
of the report. -/
def datedCosts (precision : Int) (rows : List SpendRecord) :
    Except Failure (List (Date × Money)) :=
  rows.mapM fun row => do
    let date ← Date.ofNumbers row.year row.month row.day
    let _ ← Money.make 0 precision
    return (date, row.cost)

/-- The days that were visited before, and those from a day on up to the last one. Every day that is
visited needs a zero at the precision of the report. Nothing steps past the end of the calendar. -/
def visitDays (precision : Int) (last : Date) (visited : List Date) (day : Date) :
    Except Failure (List Date) :=
  if _ : last.before day then
    .ok visited.reverse
  else do
    let _ ← Money.make 0 precision
    match _ : day.next? with
    | some next => visitDays precision last (day :: visited) next
    | none => .error .outOfRange
termination_by (last.key + 1 - day.key).toNat
decreasing_by
  have hlater := Date.key_lt_next ‹day.next? = some _›
  have hnotPast : ¬ last.before day := ‹_›
  rw [Date.before, decide_eq_true_eq] at hnotPast
  omega

/-- The dates in ascending order, each once. -/
def distinctDates (dates : List Date) : List Date :=
  (dates.mergeSort fun a b => a.key ≤ b.key).foldr
    (fun date later => if later.head? = some date then later else date :: later) []

/-- What was spent on a day, from zero at the precision of the report. -/
def spentOn (precision : Nat) (costs : List (Date × Money)) (date : Date) : Money :=
  ((costs.filter (·.1 = date)).map (·.2)).foldl (· + ·) (Money.zero precision)

/-- What was spent on each day of a period and on all other days with spends, by date. -/
def spentByDay (rows : List SpendRecord) (first last : Date) (precision : Int) :
    Except Failure (List (Date × Money)) := do
  let costs ← datedCosts precision rows
  let days ← visitDays precision last [] first
  let dates := distinctDates (costs.map (·.1) ++ days)
  return dates.map fun date => (date, spentOn precision.toNat costs date)

end Allowance.Statistics
