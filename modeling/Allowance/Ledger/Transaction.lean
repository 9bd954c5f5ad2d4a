import Allowance.Ledger.Aggregate
import Allowance.Ledger.Request
import Allowance.Ledger.Search
import Allowance.Ledger.Work
import Allowance.SpendType.Hierarchy

/-!
# Requests as work on a ledger

`Ledger.handle` answers a request by the work that it stands for, one transaction between the checks
of the request and the entry in the log. Every change to an amount recomputes the month that it
belongs to in the same transaction.
-/

namespace Allowance.Ledger

/-- The answer to a request, the ledger after it and what was logged. -/
structure Reply (α : Type) where
  value : α
  ledger : Ledger
  log : List LogEntry

/-- An answer that leaves the ledger as it is. -/
def answer {α : Type} (l : Ledger) (value : α) : Reply α :=
  ⟨value, l, []⟩

/-- What is logged about a recomputed month. -/
def recomputed (month : Month) : LogEntry :=
  .monthRecomputed month.id month.dailyBudget month.totalIncome month.totalSpend month.result

/-- Recomputes a month and logs its figures. -/
def Work.settle (monthId : Int) : Work Unit := do
  let (settled, month) ← attempt ((← current).settle monthId)
  change fun _ => settled
  note (recomputed month)

/-- Recomputes a month if an edit gives an amount. -/
def Work.settleFor (amount : Option Money) (monthId : Int) : Work Unit :=
  match amount with
  | some _ => settle monthId
  | none => pure ()

/-- An amount in minor units, if one is given. -/
def units? (l : Ledger) : Option Money → Except Failure (Option Int)
  | some m => (l.units m).map some
  | none => .ok none

/-- The names of the fields that are given, of those in a list. -/
def givenFields (fields : List (String × Bool)) : List String :=
  (fields.filter (·.2)).map (·.1)

/-! ## Months -/

def insertMonthRow (l : Ledger) (year month : Int) : Ledger :=
  let id := l.counters.month + 1
  { l with
    months := l.months ++ [⟨id, year, month, 0, 0, 0, 0⟩]
    counters := { l.counters with month := id } }

/-- The ledger with the first days of a month, of which there are the given number. -/
def insertDays (l : Ledger) (monthId : Int) (count : Nat) : Ledger :=
  let newDay (i : Nat) : DayRow := ⟨l.counters.day + 1 + i, monthId, i + 1, 0⟩
  { l with
    days := l.days ++ (List.range count).map newDay
    counters := { l.counters with day := l.counters.day + count } }

def findMonth? (l : Ledger) (year month : Int) : Option MonthRow :=
  l.months.find? fun row => row.year == year && row.month == month

def requireMonthNumber (month : Int) : Except Failure Unit :=
  if month < 1 ∨ 12 < month then .error (.ofRejection (.monthOutOfRange month)) else .ok ()

def Work.openMonth (year month : Int) : Work Int := do
  attempt (requireMonthNumber month)
  transaction do
    let l ← current
    attempt (requireStorable year)
    match l.findMonth? year month with
    | some row => return row.id
    | none =>
      let id := l.counters.month + 1
      change (·.insertMonthRow year month)
      -- The month is stored already when its days turn out to be outside the calendar.
      let days ← attempt (Calendar.daysInMonth year month)
      change (·.insertDays id days)
      note (.monthInitialized id year month)
      return id

def monthOn (l : Ledger) (year month : Int) : Except Failure Month := do
  requireStorable year
  requireStorable month
  match l.findMonth? year month with
  | some row => return l.monthOf row
  | none => throw (.notFound .month)

/-- All months by date, without what belongs to them. -/
def allMonths (l : Ledger) : List Month :=
  let precedes (a b : MonthRow) : Bool :=
    a.year < b.year || (a.year == b.year && a.month ≤ b.month)
  (l.months.mergeSort precedes).map l.bareMonth

def dayOn (l : Ledger) (date : Date) : Except Failure Int :=
  let found : Option DayRow := do
    let month ← l.findMonth? date.year date.month
    l.days.find? fun row => row.monthId == month.id && row.day == date.day
  match found with
  | some row => .ok row.id
  | none => .error (.notFound .day)

/-- A day as its month lists it. -/
def day (l : Ledger) (id : Int) : Except Failure Day := do
  let row ← require l.days .day id
  let month ← l.loadMonth row.monthId
  match month.days.find? (·.id == id) with
  | some day => return day
  | none => throw (.notFound .day)

/-! ## Incomes -/

/-- The ledger with an income in minor units under the next number. -/
def insertIncome (l : Ledger) (income : NewIncome) (amount : Int) : Ledger :=
  let id := l.counters.income + 1
  let row : IncomeRow :=
    ⟨id, income.monthId, Text.trim income.title, Text.trim income.notes, amount⟩
  { l with
    incomes := l.incomes ++ [row]
    counters := { l.counters with income := id } }

/-- An income after an edit, with the amount in minor units if one is given. -/
def editedIncome (edit : IncomeEdit) (amount : Option Int) (row : IncomeRow) : IncomeRow :=
  { row with
    title := (edit.title.map Text.trim).getD row.title
    notes := (edit.notes.map Text.trim).getD row.notes
    amount := amount.getD row.amount }

def updateIncome (l : Ledger) (edit : IncomeEdit) (amount : Option Int) : Ledger :=
  { l with incomes := Table.modify l.incomes edit.id (editedIncome edit amount) }

def eraseIncome (l : Ledger) (id : Int) : Ledger :=
  { l with incomes := Table.erase l.incomes id }

def Work.addIncome (income : NewIncome) : Work Int := do
  attempt (refuse income.rejection?)
  let id ← transaction do
    let l ← current
    let _ ← attempt (require l.months .month income.monthId)
    let amount ← attempt (l.units income.amount)
    change (·.insertIncome income amount)
    settle income.monthId
    return l.counters.income + 1
  note (.incomeAdded id income.monthId income.amount)
  return id

def Work.editIncome (edit : IncomeEdit) : Work Unit := do
  attempt (refuse edit.rejection?)
  transaction do
    let l ← current
    let row ← attempt (require l.incomes .income edit.id)
    let amount ← attempt (l.units? edit.amount)
    change (·.updateIncome edit amount)
    settleFor edit.amount row.monthId
  note (.incomeEdited edit.id (givenFields
    [("income", edit.amount.isSome), ("notes", edit.notes.isSome), ("title", edit.title.isSome)]))

def Work.removeIncome (id : Int) : Work Unit := do
  let monthId ← transaction do
    let row ← attempt (require (← current).incomes .income id)
    change (·.eraseIncome id)
    settle row.monthId
    return row.monthId
  note (.incomeRemoved id monthId)

/-! ## Monthly payments -/

def insertPayment (l : Ledger) (payment : NewPayment) (cost : Int) : Ledger :=
  let id := l.counters.payment + 1
  let row : PaymentRow :=
    ⟨id, payment.monthId, payment.typeId, Text.trim payment.title, Text.trim payment.notes, cost⟩
  { l with
    payments := l.payments ++ [row]
    counters := { l.counters with payment := id } }

def editedPayment (edit : PaymentEdit) (cost : Option Int) (row : PaymentRow) : PaymentRow :=
  { row with
    title := (edit.title.map Text.trim).getD row.title
    typeId := edit.typeId.getD row.typeId
    notes := (edit.notes.map Text.trim).getD row.notes
    cost := cost.getD row.cost }

def updatePayment (l : Ledger) (edit : PaymentEdit) (cost : Option Int) : Ledger :=
  { l with payments := Table.modify l.payments edit.id (editedPayment edit cost) }

def erasePayment (l : Ledger) (id : Int) : Ledger :=
  { l with payments := Table.erase l.payments id }

def Work.addPayment (payment : NewPayment) : Work Int := do
  attempt (refuse payment.rejection?)
  let id ← transaction do
    let l ← current
    let _ ← attempt (require l.months .month payment.monthId)
    attempt (l.requireType payment.typeId)
    let cost ← attempt (l.units payment.cost)
    change (·.insertPayment payment cost)
    settle payment.monthId
    return l.counters.payment + 1
  note (.paymentAdded id payment.monthId payment.cost)
  return id

def Work.editPayment (edit : PaymentEdit) : Work Unit := do
  attempt (refuse edit.rejection?)
  transaction do
    let l ← current
    let row ← attempt (require l.payments .payment edit.id)
    attempt (l.requireType (edit.typeId.getD SpendType.noType))
    let cost ← attempt (l.units? edit.cost)
    change (·.updatePayment edit cost)
    settleFor edit.cost row.monthId
  note (.paymentEdited edit.id (givenFields
    [("cost", edit.cost.isSome), ("notes", edit.notes.isSome), ("title", edit.title.isSome),
      ("type_id", edit.typeId.isSome)]))

def Work.removePayment (id : Int) : Work Unit := do
  let monthId ← transaction do
    let row ← attempt (require (← current).payments .payment id)
    change (·.erasePayment id)
    settle row.monthId
    return row.monthId
  note (.paymentRemoved id monthId)

/-! ## Spends -/

/-- The month of the day of a spend. -/
def monthOfSpend (l : Ledger) (row : SpendRow) : Except Failure Int :=
  match Table.find? l.days row.dayId with
  | some day => .ok day.monthId
  | none => .error (.notFound .spend)

def insertSpend (l : Ledger) (spend : NewSpend) (cost : Int) : Ledger :=
  let id := l.counters.spend + 1
  let row : SpendRow :=
    ⟨id, spend.dayId, spend.typeId, Text.trim spend.title, Text.trim spend.notes, cost⟩
  { l with
    spends := l.spends ++ [row]
    counters := { l.counters with spend := id } }

def editedSpend (edit : SpendEdit) (cost : Option Int) (row : SpendRow) : SpendRow :=
  { row with
    title := (edit.title.map Text.trim).getD row.title
    typeId := edit.typeId.getD row.typeId
    notes := (edit.notes.map Text.trim).getD row.notes
    cost := cost.getD row.cost }

def updateSpend (l : Ledger) (edit : SpendEdit) (cost : Option Int) : Ledger :=
  { l with spends := Table.modify l.spends edit.id (editedSpend edit cost) }

def eraseSpend (l : Ledger) (id : Int) : Ledger :=
  { l with spends := Table.erase l.spends id }

def Work.addSpend (spend : NewSpend) : Work Int := do
  attempt (refuse spend.rejection?)
  let id ← transaction do
    let l ← current
    let day ← attempt (require l.days .day spend.dayId)
    attempt (l.requireType spend.typeId)
    let cost ← attempt (l.units spend.cost)
    change (·.insertSpend spend cost)
    settle day.monthId
    return l.counters.spend + 1
  note (.spendAdded id spend.dayId spend.cost)
  return id

def Work.editSpend (edit : SpendEdit) : Work Unit := do
  attempt (refuse edit.rejection?)
  transaction do
    let l ← current
    let row ← attempt (require l.spends .spend edit.id)
    let monthId ← attempt (l.monthOfSpend row)
    attempt (l.requireType (edit.typeId.getD SpendType.noType))
    let cost ← attempt (l.units? edit.cost)
    change (·.updateSpend edit cost)
    settleFor edit.cost monthId
  note (.spendEdited edit.id (givenFields
    [("cost", edit.cost.isSome), ("notes", edit.notes.isSome), ("title", edit.title.isSome),
      ("type_id", edit.typeId.isSome)]))

def Work.removeSpend (id : Int) : Work Unit := do
  let monthId ← transaction do
    let l ← current
    let row ← attempt (require l.spends .spend id)
    let monthId ← attempt (l.monthOfSpend row)
    change (·.eraseSpend id)
    settle monthId
    return monthId
  note (.spendRemoved id monthId)

/-! ## Spend types -/

def insertType (l : Ledger) (type : NewSpendType) : Ledger :=
  let id := l.counters.spendType + 1
  { l with
    types := l.types ++ [⟨id, Text.trim type.name, type.parent⟩]
    counters := { l.counters with spendType := id } }

def editedType (edit : SpendTypeEdit) (type : SpendType) : SpendType :=
  { type with
    name := (edit.name.map Text.trim).getD type.name
    parent := edit.parent.getD type.parent }

def updateType (l : Ledger) (edit : SpendTypeEdit) : Ledger :=
  { l with types := Table.modify l.types edit.id (editedType edit) }

def eraseType (l : Ledger) (id : Int) : Ledger :=
  { l with types := Table.erase l.types id }

def Work.addSpendType (type : NewSpendType) : Work Int := do
  attempt (refuse type.rejection?)
  let id ← transaction do
    let l ← current
    attempt (l.requireType type.parent)
    change (·.insertType type)
    return l.counters.spendType + 1
  note (.spendTypeAdded id type.parent)
  return id

/-- Fails unless a spend type may stand under a new parent. -/
def requireParent (l : Ledger) (id parent : Int) : Except Failure Unit := do
  l.requireType parent
  if ← SpendType.hasCycle l.types id parent then
    throw (.conflict .cycle)

def requireGivenParent (l : Ledger) (edit : SpendTypeEdit) : Except Failure Unit :=
  match edit.parent with
  | some parent => l.requireParent edit.id parent
  | none => .ok ()

def Work.editSpendType (edit : SpendTypeEdit) : Work Unit := do
  attempt (refuse edit.rejection?)
  transaction do
    let l ← current
    let _ ← attempt (require l.types .spendType edit.id)
    attempt (l.requireGivenParent edit)
    change (·.updateType edit)
  note (.spendTypeEdited edit.id (givenFields
    [("name", edit.name.isSome), ("parent_id", edit.parent.isSome)]))

/-- What still uses a spend type, if anything does. -/
def usage? (l : Ledger) (id : Int) : Option Conflict :=
  if l.payments.any (·.typeId == id) then some .usedInPayments
  else if l.spends.any (·.typeId == id) then some .usedInSpends
  else if l.types.any (·.parent == id) then some .usedInSpendTypes
  else none

def requireUnused (l : Ledger) (id : Int) : Except Failure Unit :=
  match l.usage? id with
  | some why => .error (.conflict why)
  | none => .ok ()

def Work.removeSpendType (id : Int) : Work Unit := do
  transaction do
    let l ← current
    let _ ← attempt (require l.types .spendType id)
    attempt (l.requireUnused id)
    change (·.eraseType id)
  note (.spendTypeRemoved id)

/-! ## All requests -/

/-- What a request has done. -/
def Request.work {α : Type} : Request α → Work α
  | .prepare code => do let _ ← Work.attempt (Currency.ofCode code)
  | .currency => Work.read fun l => .ok l.currency
  | .openMonth year number => Work.openMonth year number
  | .month id => Work.read (·.loadMonth id)
  | .monthOn year number => Work.read (·.monthOn year number)
  | .months => Work.read fun l => .ok l.allMonths
  | .dayOn date => Work.read (·.dayOn date)
  | .day id => Work.read (·.day id)
  | .addIncome income => Work.addIncome income
  | .editIncome edit => Work.editIncome edit
  | .removeIncome id => Work.removeIncome id
  | .addPayment payment => Work.addPayment payment
  | .editPayment edit => Work.editPayment edit
  | .removePayment id => Work.removePayment id
  | .addSpend spend => Work.addSpend spend
  | .editSpend edit => Work.editSpend edit
  | .removeSpend id => Work.removeSpend id
  | .addSpendType type => Work.addSpendType type
  | .editSpendType edit => Work.editSpendType edit
  | .removeSpendType id => Work.removeSpendType id
  | .spendType id => Work.read fun l => require l.types .spendType id
  | .spendTypes => Work.read fun l => .ok l.types
  | .search criteria => Work.read (·.search criteria)

/-- The reply to work on a draft, unless the work fails. -/
def Work.reply {α : Type} (work : Work α) (draft : Draft) : Except Failure (Reply α) :=
  match work.perform draft with
  | (.ok value, done) => .ok ⟨value, done.ledger, done.log⟩
  | (.error why, _) => .error why

def handle {α : Type} (l : Ledger) (request : Request α) : Except Failure (Reply α) :=
  request.work.reply ⟨l, []⟩

/-- The ledger after a request, whether it succeeds or not. -/
def after {α : Type} (l : Ledger) (request : Request α) : Ledger :=
  (request.work.perform ⟨l, []⟩).2.ledger

end Allowance.Ledger
