import Allowance.Change
import Allowance.Currency
import Allowance.Search.Query

/-!
# Requests to a ledger

Everything that a ledger can be asked, together with the type of the answer.
-/

namespace Allowance.Ledger

/-- A request whose answer has the given type. -/
inductive Request : Type → Type where
  /-- Prepares the ledger; one that exists keeps its currency. -/
  | prepare (currency : String) : Request Unit
  | currency : Request Currency
  /-- Creates a month with its days, unless it exists. -/
  | openMonth (year month : Int) : Request Int
  | month (id : Int) : Request Month
  | monthOn (year month : Int) : Request Month
  | months : Request (List Month)
  | dayOn (date : Date) : Request Int
  | day (id : Int) : Request Day
  | addIncome (income : NewIncome) : Request Int
  | editIncome (edit : IncomeEdit) : Request Unit
  | removeIncome (id : Int) : Request Unit
  | addPayment (payment : NewPayment) : Request Int
  | editPayment (edit : PaymentEdit) : Request Unit
  | removePayment (id : Int) : Request Unit
  | addSpend (spend : NewSpend) : Request Int
  | editSpend (edit : SpendEdit) : Request Unit
  | removeSpend (id : Int) : Request Unit
  | addSpendType (type : NewSpendType) : Request Int
  | editSpendType (edit : SpendTypeEdit) : Request Unit
  | removeSpendType (id : Int) : Request Unit
  | spendType (id : Int) : Request SpendType
  | spendTypes : Request (List SpendType)
  | search (criteria : Search.Criteria) : Request (List SpendRecord)

end Allowance.Ledger
