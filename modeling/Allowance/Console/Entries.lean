import Allowance.Calendar.Reading
import Allowance.Calendar.Month
import Allowance.Console.Program
import Allowance.Money.Reading

/-!
# Adding, editing and removing

The commands that change incomes, payments, spends and spend types.
-/

namespace Allowance.Console

open Program

/-- What a command knows besides the ledger. -/
structure Context where
  policy : CostPolicy
  currency : Currency
  today : Date

namespace Context

def precision (ctx : Context) : Nat :=
  ctx.currency.precision

def money (ctx : Context) (m : Money) : String :=
  m.format ctx.currency.symbol

/-- An amount in the color of its sign. -/
def signedMoney (ctx : Context) (m : Money) : String :=
  if m.amount < 0 then Markup.red (ctx.money m) else Markup.green (ctx.money m)

/-- A typed amount in the ledger's currency. -/
def amount (ctx : Context) (typed : String) : Program Money :=
  attempt (Money.ofText typed ctx.precision)

def amount? (ctx : Context) (typed : Option String) : Program (Option Money) :=
  attempt (Money.ofText? typed ctx.precision)

/-- The number of a typed month, or of the current one. The month is created if need be. -/
def openMonth (ctx : Context) (typed : Option String) : Program Int :=
  match typed with
  | none => request (.openMonth ctx.today.year ctx.today.month)
  | some text =>
    match Calendar.parseMonth text with
    | .ok (year, month) => request (.openMonth year month)
    | .error _ => giveUp (Markup.red ("Invalid month format: " ++ text ++ ". Use YYYY-MM"))

end Context

/-- The forms of dates that are mentioned when a date cannot be read. -/
def dateForms : String :=
  "Accepted formats: YYYY-MM-DD, DD/MM/YYYY, DD-MM-YYYY, etc."

/-- The end of a command whose date cannot be read. Only what is wrong with the text is reported. -/
def refuseDate {α : Type} : Failure → Program α
  | .misuse why => do
    say (Markup.red ("Invalid date format: " ++ why.message))
    giveUp (Markup.dim dateForms)
  | why => leave (.crash why)

def typedDate (reader : Calendar.DateReader) (text : String) : Program Date :=
  match Calendar.parseDate reader text with
  | .ok date => pure date
  | .error why => refuseDate why

def typedDate? (reader : Calendar.DateReader) : Option String → Program (Option Date)
  | some text => do return some (← typedDate reader text)
  | none => pure none

def shown (i : Int) : String :=
  Text.signedNumeral i

def addedLine (what : String) (id : Int) (rest : String) : String :=
  Markup.success (what ++ " added (ID: " ++ shown id ++ "): " ++ rest)

def updatedLine (what : String) (id : Int) : String :=
  Markup.success (what ++ " " ++ shown id ++ " updated")

def removedLine (what : String) (id : Int) : String :=
  Markup.success (what ++ " " ++ shown id ++ " removed")

/-! ## Incomes -/

def addIncome (ctx : Context) (title typed : String) (month : Option String) (notes : String) :
    Program Unit := do
  let monthId ← ctx.openMonth month
  let amount ← ctx.amount typed
  let id ← request (.addIncome ⟨monthId, title, amount, notes⟩)
  say (addedLine "Income" id (title ++ " " ++ ctx.money amount))

def editIncome (ctx : Context) (id : Int) (title typed notes : Option String) : Program Unit := do
  let amount ← ctx.amount? typed
  request (.editIncome ⟨id, title, notes, amount⟩)
  say (updatedLine "Income" id)

def removeIncome (id : Int) : Program Unit := do
  request (.removeIncome id)
  say (removedLine "Income" id)

/-! ## Monthly payments -/

def addPayment (ctx : Context) (title typed : String) (month : Option String) (typeId : Int)
    (notes : String) : Program Unit := do
  let monthId ← ctx.openMonth month
  let cost ← ctx.amount typed
  let id ← request (.addPayment ⟨monthId, title, cost, typeId, notes⟩)
  say (addedLine "Monthly payment" id (title ++ " " ++ ctx.money cost))

def editPayment (ctx : Context) (id : Int) (title typed : Option String) (typeId : Option Int)
    (notes : Option String) : Program Unit := do
  let cost ← ctx.amount? typed
  request (.editPayment ⟨id, title, typeId, notes, cost⟩)
  say (updatedLine "Monthly payment" id)

def removePayment (id : Int) : Program Unit := do
  request (.removePayment id)
  say (removedLine "Monthly payment" id)

/-! ## Spends -/

def addSpend (ctx : Context) (reader : Calendar.DateReader) (title typed : String)
    (date : Option String) (typeId : Int) (notes : String) : Program Unit := do
  let date := (← typedDate? reader date).getD ctx.today
  let _ ← request (.openMonth date.year date.month)
  let dayId ← request (.dayOn date)
  let cost ← ctx.amount typed
  let id ← request (.addSpend ⟨dayId, title, cost, typeId, notes, ctx.policy⟩)
  say (Markup.success "Spend added:")
  say ("  ID: " ++ shown id)
  say ("  Date: " ++ date.text)
  say ("  Title: " ++ title)
  say ("  Cost: " ++ ctx.money cost)

def editSpend (ctx : Context) (id : Int) (title typed : Option String) (typeId : Option Int)
    (notes : Option String) : Program Unit := do
  let cost ← ctx.amount? typed
  request (.editSpend ⟨id, title, typeId, notes, cost, ctx.policy⟩)
  say (updatedLine "Spend" id)

def removeSpend (id : Int) : Program Unit := do
  request (.removeSpend id)
  say (removedLine "Spend" id)

/-! ## Spend types -/

def addSpendType (name : String) (parent : Int) : Program Unit := do
  let id ← request (.addSpendType ⟨name, parent⟩)
  say (addedLine "Spend type" id name)

def editSpendType (id : Int) (name : Option String) (parent : Option Int) : Program Unit := do
  request (.editSpendType ⟨id, name, parent⟩)
  say (updatedLine "Spend type" id)

def removeSpendType (id : Int) : Program Unit := do
  request (.removeSpendType id)
  say (removedLine "Spend type" id)

end Allowance.Console
