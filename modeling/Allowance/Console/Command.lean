import Allowance.Search.Query

/-!
# Commands

What a user can ask for on a command line. Amounts, dates and months are kept as they were typed,
because how they are read depends on the ledger and on the day.
-/

namespace Allowance.Console

/-- What is searched for, as typed. -/
structure SearchOptions where
  title : String
  notes : String
  titleExactly : Bool
  notesExactly : Bool
  after : Option String
  before : Option String
  minCost : Option String
  maxCost : Option String
  withoutType : Bool
  typeIds : List Int
  sortKey : Search.SortKey
  descending : Bool

inductive Command where
  | setUp (force : Bool) (currency : Option String)
  | showMonth (month : Option String)
  | listMonths
  | addIncome (title amount : String) (month : Option String) (notes : String)
  | editIncome (id : Int) (title amount notes : Option String)
  | removeIncome (id : Int)
  | addPayment (title cost : String) (month : Option String) (typeId : Int) (notes : String)
  | editPayment (id : Int) (title cost : Option String) (typeId : Option Int)
      (notes : Option String)
  | removePayment (id : Int)
  | addSpend (title cost : String) (date : Option String) (typeId : Int) (notes : String)
  | editSpend (id : Int) (title cost : Option String) (typeId : Option Int)
      (notes : Option String)
  | removeSpend (id : Int)
  | listSpendTypes
  | addSpendType (name : String) (parent : Int)
  | editSpendType (id : Int) (name : Option String) (parent : Option Int)
  | removeSpendType (id : Int)
  | search (options : SearchOptions)
  | statistics (after before : Option String) (intervals : Int)

end Allowance.Console
