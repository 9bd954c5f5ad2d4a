import Allowance.Currency
import Allowance.Ledger.Table
import Allowance.Month.Basic

/-!
# The ledger

A ledger keeps months, days, incomes, monthly payments, spends and spend types in tables. Amounts
are whole minor units of its currency. Every table has a counter of the last number given out, so
that a number is never used twice.
-/

namespace Allowance

namespace Ledger

structure MonthRow where
  id : Int
  year : Int
  month : Int
  dailyBudget : Int
  totalIncome : Int
  totalSpend : Int
  result : Int
  deriving Repr, DecidableEq

structure DayRow where
  id : Int
  monthId : Int
  day : Int
  saldo : Int
  deriving Repr, DecidableEq

structure IncomeRow where
  id : Int
  monthId : Int
  title : String
  notes : String
  amount : Int
  deriving Repr, DecidableEq

structure PaymentRow where
  id : Int
  monthId : Int
  typeId : Int
  title : String
  notes : String
  cost : Int
  deriving Repr, DecidableEq

structure SpendRow where
  id : Int
  dayId : Int
  typeId : Int
  title : String
  notes : String
  cost : Int
  deriving Repr, DecidableEq

instance : Numbered MonthRow := ⟨MonthRow.id⟩

instance : Numbered DayRow := ⟨DayRow.id⟩

instance : Numbered IncomeRow := ⟨IncomeRow.id⟩

instance : Numbered PaymentRow := ⟨PaymentRow.id⟩

instance : Numbered SpendRow := ⟨SpendRow.id⟩

instance : Numbered SpendType := ⟨SpendType.id⟩

/-- The last number given out in each table. -/
structure Counters where
  month : Int
  day : Int
  income : Int
  payment : Int
  spend : Int
  spendType : Int
  deriving Repr, DecidableEq

end Ledger

structure Ledger where
  currency : Currency
  months : List Ledger.MonthRow
  days : List Ledger.DayRow
  incomes : List Ledger.IncomeRow
  payments : List Ledger.PaymentRow
  spends : List Ledger.SpendRow
  types : List SpendType
  counters : Ledger.Counters
  deriving Repr, DecidableEq

namespace Ledger

def empty (currency : Currency) : Ledger where
  currency
  months := []
  days := []
  incomes := []
  payments := []
  spends := []
  types := []
  counters := ⟨0, 0, 0, 0, 0, 0⟩

def precision (l : Ledger) : Nat :=
  l.currency.precision

/-- Minor units as money of the ledger's currency. -/
def money (l : Ledger) (units : Int) : Money :=
  ⟨units, l.precision⟩

/-- The least number that is too large to be stored in 64 bits. -/
def storageLimit : Int := 9223372036854775808

def IsStorable (i : Int) : Prop :=
  -storageLimit ≤ i ∧ i < storageLimit

instance (i : Int) : Decidable (IsStorable i) := by
  unfold IsStorable
  infer_instance

def requireStorable (i : Int) : Except Failure Unit :=
  if IsStorable i then .ok () else .error .outOfRange

/-- An amount in minor units of the ledger's currency, if it can be stored. -/
def units (l : Ledger) (m : Money) : Except Failure Int := do
  let n ← m.minorUnits l.precision
  requireStorable n
  return n

/-- The row of a number that has to exist in a table. A missing number is out of range if it cannot
even be stored. -/
def require {α : Type} [Numbered α] (rows : List α) (what : Entity) (id : Int) :
    Except Failure α :=
  match Table.find? rows id with
  | some row => .ok row
  | none => if IsStorable id then .error (.notFound what) else .error .outOfRange

/-- Fails unless a spend type exists or none is meant. -/
def requireType (l : Ledger) (id : Int) : Except Failure Unit :=
  if id = SpendType.noType then .ok ()
  else (require l.types .spendType id).map fun _ => ()

end Ledger

end Allowance
