import Allowance.Ledger.Basic
import Allowance.Terminal.TomlWriter
import Allowance.Toml.Reader

/-!
# Ledgers as documents

A ledger is kept as a document: its currency, its counters, and every table as an array of rows.
-/

namespace Allowance.Ledger

open Data

/-! ## Writing -/

def MonthRow.toValue (row : MonthRow) : Value :=
  .list ([row.id, row.year, row.month, row.dailyBudget, row.totalIncome, row.totalSpend,
    row.result].map .integer)

def DayRow.toValue (row : DayRow) : Value :=
  .list ([row.id, row.monthId, row.day, row.saldo].map .integer)

def IncomeRow.toValue (row : IncomeRow) : Value :=
  .list [.integer row.id, .integer row.monthId, .text row.title, .text row.notes,
    .integer row.amount]

def PaymentRow.toValue (row : PaymentRow) : Value :=
  .list [.integer row.id, .integer row.monthId, .integer row.typeId, .text row.title,
    .text row.notes, .integer row.cost]

def SpendRow.toValue (row : SpendRow) : Value :=
  .list [.integer row.id, .integer row.dayId, .integer row.typeId, .text row.title,
    .text row.notes, .integer row.cost]

def typeValue (type : SpendType) : Value :=
  .list [.integer type.id, .text type.name, .integer type.parent]

def Counters.toValue (counters : Counters) : Value :=
  .list ([counters.month, counters.day, counters.income, counters.payment, counters.spend,
    counters.spendType].map .integer)

def toTable (l : Ledger) : Table :=
  [("currency", .text l.currency.code),
    ("counters", l.counters.toValue),
    ("months", .list (l.months.map (·.toValue))),
    ("days", .list (l.days.map (·.toValue))),
    ("incomes", .list (l.incomes.map (·.toValue))),
    ("payments", .list (l.payments.map (·.toValue))),
    ("spends", .list (l.spends.map (·.toValue))),
    ("types", .list (l.types.map typeValue))]

/-! ## Reading -/

def MonthRow.ofValue? : Value → Option MonthRow
  | .list [.integer id, .integer year, .integer month, .integer dailyBudget,
      .integer totalIncome, .integer totalSpend, .integer result] =>
    some ⟨id, year, month, dailyBudget, totalIncome, totalSpend, result⟩
  | _ => none

def DayRow.ofValue? : Value → Option DayRow
  | .list [.integer id, .integer monthId, .integer day, .integer saldo] =>
    some ⟨id, monthId, day, saldo⟩
  | _ => none

def IncomeRow.ofValue? : Value → Option IncomeRow
  | .list [.integer id, .integer monthId, .text title, .text notes, .integer amount] =>
    some ⟨id, monthId, title, notes, amount⟩
  | _ => none

def PaymentRow.ofValue? : Value → Option PaymentRow
  | .list [.integer id, .integer monthId, .integer typeId, .text title, .text notes,
      .integer cost] =>
    some ⟨id, monthId, typeId, title, notes, cost⟩
  | _ => none

def SpendRow.ofValue? : Value → Option SpendRow
  | .list [.integer id, .integer dayId, .integer typeId, .text title, .text notes,
      .integer cost] =>
    some ⟨id, dayId, typeId, title, notes, cost⟩
  | _ => none

def typeOfValue? : Value → Option SpendType
  | .list [.integer id, .text name, .integer parent] => some ⟨id, name, parent⟩
  | _ => none

def Counters.ofValue? : Value → Option Counters
  | .list [.integer month, .integer day, .integer income, .integer payment, .integer spend,
      .integer spendType] =>
    some ⟨month, day, income, payment, spend, spendType⟩
  | _ => none

def currencyOfValue? : Value → Option Currency
  | .text code => (Currency.ofCode code).toOption
  | _ => none

/-- The rows of a value that is an array. -/
def rows? {α : Type} (row? : Value → Option α) : Value → Option (List α)
  | .list items => items.mapM row?
  | _ => none

def ofTable? (table : Table) : Option Ledger := do
  return {
    currency := ← currencyOfValue? (← table.lookup "currency")
    counters := ← Counters.ofValue? (← table.lookup "counters")
    months := ← rows? MonthRow.ofValue? (← table.lookup "months")
    days := ← rows? DayRow.ofValue? (← table.lookup "days")
    incomes := ← rows? IncomeRow.ofValue? (← table.lookup "incomes")
    payments := ← rows? PaymentRow.ofValue? (← table.lookup "payments")
    spends := ← rows? SpendRow.ofValue? (← table.lookup "spends")
    types := ← rows? typeOfValue? (← table.lookup "types") }

def document (l : Ledger) : String :=
  (Terminal.writeToml? l.toTable).getD ""

def ofDocument? (document : String) : Option Ledger := do
  ofTable? (← (Toml.read document).toOption)

end Allowance.Ledger
