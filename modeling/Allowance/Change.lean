import Allowance.Failure
import Allowance.Text.Blank

/-!
# Changes to a ledger

What a user asks to be added or edited, and the checks that need nothing but the request itself.
In an edit a field that is not given stays as it is.
-/

namespace Allowance

/-- Which costs of spends are accepted. -/
inductive CostPolicy where
  | positive
  | nonNegative
  | any
  deriving Repr, DecidableEq

namespace CostPolicy

def all : List CostPolicy :=
  [positive, nonNegative, any]

def name : CostPolicy → String
  | positive => "positive"
  | nonNegative => "non_negative"
  | any => "any"

def ofName? (name : String) : Option CostPolicy :=
  all.find? (·.name == name)

def accepts (policy : CostPolicy) (cost : Money) : Bool :=
  match policy with
  | positive => 0 < cost.amount
  | nonNegative => 0 ≤ cost.amount
  | any => true

end CostPolicy

/-- Refuses a text of nothing but blanks. -/
def checkText (field text : String) : Option Rejection :=
  if Text.isBlankText text then some (.emptyText field) else none

def checkAmount (policy : CostPolicy) (field : String) (amount : Money) : Option Rejection :=
  if policy.accepts amount then none else some (.amountNotAllowed field amount)

structure NewIncome where
  monthId : Int
  title : String
  amount : Money
  notes : String
  deriving Repr

structure IncomeEdit where
  id : Int
  title : Option String
  notes : Option String
  amount : Option Money
  deriving Repr

structure NewPayment where
  monthId : Int
  title : String
  cost : Money
  typeId : Int
  notes : String
  deriving Repr

structure PaymentEdit where
  id : Int
  title : Option String
  typeId : Option Int
  notes : Option String
  cost : Option Money
  deriving Repr

structure NewSpend where
  dayId : Int
  title : String
  cost : Money
  typeId : Int
  notes : String
  policy : CostPolicy
  deriving Repr

structure SpendEdit where
  id : Int
  title : Option String
  typeId : Option Int
  notes : Option String
  cost : Option Money
  policy : CostPolicy
  deriving Repr

structure NewSpendType where
  name : String
  parent : Int
  deriving Repr

structure SpendTypeEdit where
  id : Int
  name : Option String
  parent : Option Int
  deriving Repr

/-- The first thing that is wrong with a title and an amount, of which either may be missing. -/
def checkEntry (title : Option String) (policy : CostPolicy) (field : String)
    (amount : Option Money) : Option Rejection :=
  (title.bind (checkText "title")).or (amount.bind (checkAmount policy field))

def NewIncome.rejection? (income : NewIncome) : Option Rejection :=
  checkEntry income.title .positive "income" income.amount

def IncomeEdit.rejection? (edit : IncomeEdit) : Option Rejection :=
  checkEntry edit.title .positive "income" edit.amount

def NewPayment.rejection? (payment : NewPayment) : Option Rejection :=
  checkEntry payment.title .positive "cost" payment.cost

def PaymentEdit.rejection? (edit : PaymentEdit) : Option Rejection :=
  checkEntry edit.title .positive "cost" edit.cost

def NewSpend.rejection? (spend : NewSpend) : Option Rejection :=
  checkEntry spend.title spend.policy "cost" spend.cost

def SpendEdit.rejection? (edit : SpendEdit) : Option Rejection :=
  checkEntry edit.title edit.policy "cost" edit.cost

def NewSpendType.rejection? (type : NewSpendType) : Option Rejection :=
  checkText "name" type.name

def SpendTypeEdit.rejection? (edit : SpendTypeEdit) : Option Rejection :=
  edit.name.bind (checkText "name")

def refuse : Option Rejection → Except Failure Unit
  | some why => .error (.ofRejection why)
  | none => .ok ()

end Allowance
