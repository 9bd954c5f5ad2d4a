import Allowance.Failure
import Allowance.LogLevel

/-!
# The log of a ledger

What a ledger reports about the changes made to it.
-/

namespace Allowance.Ledger

inductive LogEntry where
  | monthInitialized (id year month : Int)
  | monthRecomputed (id : Int) (dailyBudget totalIncome totalSpend result : Money)
  | incomeAdded (id monthId : Int) (income : Money)
  | incomeEdited (id : Int) (fields : List String)
  | incomeRemoved (id monthId : Int)
  | paymentAdded (id monthId : Int) (cost : Money)
  | paymentEdited (id : Int) (fields : List String)
  | paymentRemoved (id monthId : Int)
  | spendAdded (id dayId : Int) (cost : Money)
  | spendEdited (id : Int) (fields : List String)
  | spendRemoved (id monthId : Int)
  | spendTypeAdded (id parent : Int)
  | spendTypeEdited (id : Int) (fields : List String)
  | spendTypeRemoved (id : Int)
  deriving Repr, DecidableEq

namespace LogEntry

def level : LogEntry → LogLevel
  | monthRecomputed .. => .debug
  | _ => .info

def part (name value : String) : String :=
  " " ++ name ++ "=" ++ value

def numberPart (name : String) (i : Int) : String :=
  part name (Text.signedNumeral i)

def moneyPart (name : String) (m : Money) : String :=
  part name m.text

/-- The names of the fields that an edit changed, in alphabetical order. -/
def fieldsPart (fields : List String) : String :=
  part "fields" ("[" ++ ", ".intercalate (fields.map Text.quoted) ++ "]")

def message : LogEntry → String
  | monthInitialized id year month =>
    "month_initialized:" ++ numberPart "id" id ++ numberPart "year" year ++
      numberPart "month" month
  | monthRecomputed id dailyBudget totalIncome totalSpend result =>
    "month_recomputed:" ++ numberPart "id" id ++ moneyPart "daily_budget" dailyBudget ++
      moneyPart "total_income" totalIncome ++ moneyPart "total_spend" totalSpend ++
      moneyPart "result" result
  | incomeAdded id monthId income =>
    "income_added:" ++ numberPart "id" id ++ numberPart "month_id" monthId ++
      moneyPart "income" income
  | incomeEdited id fields => "income_edited:" ++ numberPart "id" id ++ fieldsPart fields
  | incomeRemoved id monthId =>
    "income_removed:" ++ numberPart "id" id ++ numberPart "month_id" monthId
  | paymentAdded id monthId cost =>
    "monthly_payment_added:" ++ numberPart "id" id ++ numberPart "month_id" monthId ++
      moneyPart "cost" cost
  | paymentEdited id fields =>
    "monthly_payment_edited:" ++ numberPart "id" id ++ fieldsPart fields
  | paymentRemoved id monthId =>
    "monthly_payment_removed:" ++ numberPart "id" id ++ numberPart "month_id" monthId
  | spendAdded id dayId cost =>
    "spend_added:" ++ numberPart "id" id ++ numberPart "day_id" dayId ++ moneyPart "cost" cost
  | spendEdited id fields => "spend_edited:" ++ numberPart "id" id ++ fieldsPart fields
  | spendRemoved id monthId =>
    "spend_removed:" ++ numberPart "id" id ++ numberPart "month_id" monthId
  | spendTypeAdded id parent =>
    "spend_type_added:" ++ numberPart "id" id ++ numberPart "parent_id" parent
  | spendTypeEdited id fields => "spend_type_edited:" ++ numberPart "id" id ++ fieldsPart fields
  | spendTypeRemoved id => "spend_type_removed:" ++ numberPart "id" id

/-- The whole line: level and message. -/
def line (entry : LogEntry) : String :=
  entry.level.name ++ " " ++ entry.message

end LogEntry

end Allowance.Ledger
