import Allowance.Number.Power
import Allowance.Number.Rounding
import Allowance.Text.Numeral

/-!
# Decimal numbers of limited precision

Finite decimals and the arithmetic context they are computed in: a result keeps 28 significant
digits, rounded half to even, and its exponent stays within fixed limits. Only the exact value of
an operation is rounded, once.
-/

namespace Allowance.Number

/-- A signed coefficient times a power of ten. -/
structure Decimal where
  negative : Bool
  coefficient : Nat
  exponent : Int
  deriving Repr, DecidableEq

namespace Decimal

/-- What can go wrong in the context: a result too large to represent, or an operation that has
no result. -/
inductive Signal where
  | overflow
  | invalidOperation
  deriving Repr, DecidableEq

/-- The number of significant digits of a result. -/
def contextDigits : Nat := 28

/-- The greatest exponent of a leading digit. -/
def maxExponent : Int := 999999

/-- The least exponent of a last digit. -/
def minExponent : Int := -1000026

def ofInt (i : Int) : Decimal :=
  ⟨i < 0, i.natAbs, 0⟩

def digits (d : Decimal) : Nat :=
  Text.digitCount d.coefficient

def leading (d : Decimal) : Int :=
  d.exponent + d.digits - 1

/-- The coefficient without its last digits, rounded half to even. Dropping more digits than
there are leaves nothing. -/
def dropDigits (coefficient count : Nat) : Nat :=
  if Text.digitCount coefficient < count then 0
  else Number.divHalfEven coefficient (tenPow count)

/-- The value as the context represents it: rounded to its precision and to its least exponent. -/
def fit (d : Decimal) : Except Signal Decimal :=
  if d.coefficient = 0 then
    .ok { d with exponent := max minExponent (min maxExponent d.exponent) }
  else
    let excess := (max ((d.digits : Int) - contextDigits) (minExponent - d.exponent)).toNat
    let rounded : Decimal :=
      ⟨d.negative, dropDigits d.coefficient excess, d.exponent + excess⟩
    let rounded : Decimal :=
      if rounded.coefficient = tenPow contextDigits then
        { rounded with coefficient := tenPow (contextDigits - 1), exponent := rounded.exponent + 1 }
      else rounded
    if maxExponent < rounded.leading then .error .overflow else .ok rounded

/-- The value with its exponent shifted, if the shift is within the range that the context
allows. -/
def scale (d : Decimal) (shift : Int) : Except Signal Decimal :=
  if 2 * (maxExponent + contextDigits) < shift.natAbs then .error .invalidOperation
  else fit { d with exponent := d.exponent + shift }

/-- The value times a power of ten. The power itself has to be a number of the context: a large
one overflows and a small one vanishes. -/
def timesPowerOfTen (d : Decimal) (power : Int) : Except Signal Decimal :=
  if maxExponent < power then .error .overflow
  else if power < minExponent then .ok { d with coefficient := 0, exponent := minExponent }
  else fit { d with exponent := d.exponent + power }

/-- The nearest whole number, a half away from zero, if it has no more digits than the context. -/
def toWhole (d : Decimal) : Except Signal Int :=
  let signed (n : Nat) : Int := if d.negative then -n else n
  if d.coefficient = 0 ∨ d.leading < -1 then
    .ok 0
  else if contextDigits ≤ d.leading then
    .error .invalidOperation
  else if d.exponent < 0 then
    .ok (signed (Number.divHalfUp d.coefficient (tenPow d.exponent.natAbs)))
  else
    .ok (signed (d.coefficient * tenPow d.exponent.natAbs))

end Decimal

end Allowance.Number
