import Allowance.Money.Reading
import Allowance.Number.Decimal.Key

/-!
# Money among other values

Money is added to and compared with money only. It differs from every other value, and its hash is
that of its decimal, so that equal amounts have equal hashes.
-/

namespace Allowance.Money

/-- What stands on the other side of an operation on money. -/
inductive Operand where
  | money (m : Money)
  | value (v : Data.Value)

/-- The money that an operand is. -/
def Operand.money? : Operand → Except Failure Money
  | money m => .ok m
  | value _ => .error .wrongKind

def addOperand (m : Money) (other : Operand) : Except Failure Money :=
  other.money?.map (m + ·)

def subOperand (m : Money) (other : Operand) : Except Failure Money :=
  other.money?.map (m - ·)

def lessOperand (m : Money) (other : Operand) : Except Failure Bool :=
  other.money?.map m.less

def sameOperand (m : Money) : Operand → Bool
  | .money other => m.same other
  | .value _ => false

/-- The decimal that stands for the value in a hash table. -/
def hashKey (m : Money) : Except Failure Number.Decimal :=
  m.toDecimal.map (·.normalize)

def sameHash (a b : Money) : Except Failure Bool := do
  return (← a.hashKey).hash == (← b.hashKey).hash

end Allowance.Money
