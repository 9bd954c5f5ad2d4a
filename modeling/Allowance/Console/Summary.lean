import Allowance.Console.Listing
import Allowance.Statistics.ByDay
import Allowance.Statistics.ByType
import Allowance.Statistics.Costs

/-!
# Statistics of a period

The command that shows what was spent by day, by spend type and by cost. The period is the current
month unless other bounds are given.
-/

namespace Allowance.Console

open Program

/-- The first and last day of a period of which either may be given. -/
def period (today : Date) (first last : Option Date) : Except Failure (Date × Date) :=
  match first, last with
  | some first, some last => .ok (first, last)
  | first, last => do
    let (monthFirst, monthLast, _) ← Calendar.monthRange today.year today.month
    return (first.getD monthFirst, last.getD monthLast)

def daySumRow (ctx : Context) (entry : Date × Money) : List String :=
  [entry.1.text, ctx.money entry.2]

/-- The name of a spend type in a table that shows the hierarchy by indentation. -/
def indentedName (types : List SpendType) (entry : Statistics.TypeSpent) : String :=
  String.join (List.replicate entry.depth "  ") ++
    ((SpendType.find? types entry.typeId).map (·.name)).getD entry.name

def typeSumRow (ctx : Context) (types : List SpendType) (entry : Statistics.TypeSpent) :
    List String :=
  [indentedName types entry, ctx.money entry.spent]

/-- The bar that shows a count when the greatest one fills the width. -/
def bar (count greatest : Nat) : Except Failure String := do
  let length ← Statistics.barLength count greatest Statistics.barWidth
  return String.ofList (List.replicate length.toNat '█')

def intervalRow (ctx : Context) (greatest : Nat) (interval : Statistics.CostInterval) :
    Program (List String) := do
  return [ctx.money interval.low, ctx.money interval.high, Text.numeral interval.count,
    ctx.money interval.total, ← insist (bar interval.count greatest)]

def drawStatistics (ctx : Context) (types : List SpendType) (rows : List SpendRecord)
    (first last : Date) (intervals : Int) : Program Unit := do
  let days ← insist (Statistics.spentByDay rows first last ctx.precision)
  draw ⟨"Spent by day", ["Date", "Spent"], days.map (daySumRow ctx)⟩
  let sums ← insist (Statistics.spentByType types rows ctx.precision)
  draw ⟨"Spent by spend type", ["Type", "Spent"], sums.map (typeSumRow ctx types)⟩
  let intervals ← insist (Statistics.costIntervals rows intervals)
  let greatest := (intervals.map (·.count)).foldl max 0
  draw ⟨"Costs", ["From", "To", "Count", "Total", ""], ← intervals.mapM (intervalRow ctx greatest)⟩

def statistics (ctx : Context) (reader : Calendar.DateReader) (after before : Option String)
    (intervals : Int) : Program Unit := do
  let first ← typedDate? reader after
  let last ← typedDate? reader before
  let (first, last) ← insist (period ctx.today first last)
  let criteria := { Search.Criteria.all with after := some first, before := some last }
  let rows ← request (.search criteria)
  let types ← request .spendTypes
  say ("\n" ++ Markup.heading ("Statistics " ++ first.text ++ " - " ++ last.text) ++ "\n")
  if rows.isEmpty then
    say (Markup.yellow "No spends found")
  else
    drawStatistics ctx types rows first last intervals

end Allowance.Console
