import Allowance.Failure
import Allowance.Number.Power

/-!
# Precision and division of money

The operations on money that can be refused: a precision below zero, a rescaling that would lose
digits, and a division by anything but a positive count.
-/

namespace Allowance.Money

/-- An amount of minor units at a precision that has to be non-negative. -/
def make (amount precision : Int) : Except Failure Money :=
  match precision with
  | .ofNat digits => .ok ⟨amount, digits⟩
  | .negSucc _ => .error (.misuse .negativePrecision)

/-- The same value at a larger precision. -/
def withPrecision (m : Money) (precision : Int) : Except Failure Money :=
  if precision < m.precision then .error (.ofMisuse (.losesDigits m.precision precision))
  else .ok (m.extend (precision.toNat - m.precision))

/-- The amount in minor units of a currency with the given number of digits, if it has one. -/
def minorUnits (m : Money) (precision : Int) : Except Failure Int :=
  if m.precision ≤ precision then
    .ok (m.amount * Number.tenPow (precision - m.precision).toNat)
  else
    let factor : Int := Number.tenPow (m.precision - precision).toNat
    if m.amount % factor = 0 then .ok (m.amount / factor)
    else .error (.ofRejection (.tooPrecise m precision))

/-- The value divided by a positive count, truncated toward zero at its own precision. -/
def divide (m : Money) (count : Int) : Except Failure Money :=
  if count ≤ 0 then .error (.ofMisuse (.divisorNotPositive count))
  else .ok ⟨m.amount.tdiv count, m.precision⟩

/-- The sum of amounts at a precision that may be unusable, which matters for an empty sum only. -/
def totalAt (precision : Int) (values : List Money) : Except Failure Money :=
  match values with
  | [] => make 0 precision
  | values => .ok (total precision.toNat values)

end Allowance.Money
