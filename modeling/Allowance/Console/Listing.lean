import Allowance.Console.Command
import Allowance.Console.Entries

/-!
# Listings

The commands that show months, spend types, found spends and statistics.
-/

namespace Allowance.Console

open Program

def counted (title : String) (count : Nat) : String :=
  title ++ " (" ++ Text.numeral count ++ ")"

/-- The cell of a number that refers to something, where zero refers to nothing. -/
def reference (id : Int) (nothing : String) : String :=
  if id = SpendType.noType then nothing else shown id

def dateCell (year month day : Int) : Program String :=
  attempt ((Date.ofNumbers year month day).map (·.text))

/-! ## Months -/

def incomeRow (ctx : Context) (income : Income) : List String :=
  [shown income.id, income.title, ctx.money income.amount, income.notes]

def paymentRow (ctx : Context) (payment : Payment) : List String :=
  [shown payment.id, payment.title, ctx.money payment.cost,
    reference payment.typeId Markup.nothing, payment.notes]

def dayRow (ctx : Context) (month : Month) (day : Day) : Program (List String) := do
  let date ← dateCell month.year month.month day.day
  let spends := if day.spends.isEmpty then Markup.nothing else Text.numeral day.spends.length
  let spent :=
    if day.spends.isEmpty then Markup.nothing else ctx.money (day.spent ctx.precision)
  return [date, spends, spent, ctx.signedMoney day.saldo]

/-- Displays a table unless it would have no rows. -/
def drawRows (title : String) (columns : List String) (rows : List (List String)) :
    Program Unit :=
  if rows.isEmpty then pure () else draw ⟨title, columns, rows⟩

def printMonth (ctx : Context) (month : Month) : Program Unit := do
  let (_, _, label) ← attempt (Calendar.monthRange month.year month.month)
  say ("\n" ++ Markup.heading label)
  say ("  Total income:  " ++ ctx.money month.totalIncome)
  say ("  Total spend:   " ++ ctx.signedMoney month.totalSpend)
  say ("  Daily budget:  " ++ ctx.money month.dailyBudget)
  say ("  Result:        " ++ ctx.signedMoney month.result ++ "\n")
  drawRows "Incomes" ["ID", "Title", "Income", "Notes"] (month.incomes.map (incomeRow ctx))
  drawRows "Monthly Payments" ["ID", "Title", "Cost", "Type", "Notes"]
    (month.payments.map (paymentRow ctx))
  draw ⟨"Days", ["Day", "Spends", "Spent", "Saldo"], ← month.days.mapM (dayRow ctx month)⟩

def showMonth (ctx : Context) (typed : Option String) : Program Unit := do
  let id ← ctx.openMonth typed
  printMonth ctx (← request (.month id))

def monthRow (ctx : Context) (month : Month) : List String :=
  [Text.paddedNumeral 4 month.year.toNat ++ "-" ++ Text.paddedNumeral 2 month.month.toNat,
    ctx.money month.totalIncome, ctx.signedMoney month.totalSpend, ctx.money month.dailyBudget,
    ctx.signedMoney month.result]

def listMonths (ctx : Context) : Program Unit := do
  let months ← request .months
  if months.isEmpty then
    say (Markup.yellow "No months found")
  else
    draw ⟨"Months", ["Month", "Income", "Spend", "Daily budget", "Result"],
      months.map (monthRow ctx)⟩

/-! ## Spend types -/

/-- Spend types by their full names without regard to case. -/
def byFullName (types : List SpendType) : List SpendType :=
  let key (type : SpendType) : String :=
    Text.lower ((SpendType.fullName? types type.id).getD type.name)
  types.mergeSort fun a b => !decide (key b < key a)

def spendTypeRow (types : List SpendType) (type : SpendType) : List String :=
  [shown type.id, type.name, reference type.parent "-",
    (SpendType.fullName? types type.id).getD type.name]

def listSpendTypes : Program Unit := do
  let types ← request .spendTypes
  if types.isEmpty then
    say (Markup.yellow "No spend types found")
  else
    draw ⟨counted "Spend Types" types.length, ["ID", "Name", "Parent", "Full name"],
      (byFullName types).map (spendTypeRow types)⟩

/-! ## Searches -/

/-- The cell of a spend's type: its full name, if there is such a type. -/
def typeCell (types : List SpendType) (id : Int) : String :=
  if id = SpendType.noType then Markup.nothing
  else (SpendType.fullName? types id).getD Markup.nothing

def recordRow (ctx : Context) (types : List SpendType) (row : SpendRecord) :
    Program (List String) := do
  return [shown row.id, ← dateCell row.year row.month row.day, row.title, ctx.money row.cost,
    typeCell types row.typeId, row.notes]

def typedCriteria (ctx : Context) (reader : Calendar.DateReader) (options : SearchOptions) :
    Program Search.Criteria := do
  return {
    title := options.title
    notes := options.notes
    titleExactly := options.titleExactly
    notesExactly := options.notesExactly
    after := ← typedDate? reader options.after
    before := ← typedDate? reader options.before
    minCost := ← ctx.amount? options.minCost
    maxCost := ← ctx.amount? options.maxCost
    withoutType := options.withoutType
    typeIds := options.typeIds
    sortKey := options.sortKey
    descending := options.descending }

def search (ctx : Context) (reader : Calendar.DateReader) (options : SearchOptions) :
    Program Unit := do
  let criteria ← typedCriteria ctx reader options
  let rows ← request (.search criteria)
  let types ← request .spendTypes
  if rows.isEmpty then
    say (Markup.yellow "No spends found")
  else
    draw ⟨counted "Spends" rows.length, ["ID", "Date", "Title", "Cost", "Type", "Notes"],
      ← rows.mapM (recordRow ctx types)⟩
    say (Markup.bold "Total:" ++ " " ++
      ctx.money (Money.total ctx.precision (rows.map (·.cost))))

end Allowance.Console
