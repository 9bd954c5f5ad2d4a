import Allowance.Number.Power
import Allowance.Number.Rounding
import Allowance.Text.Numeral

/-!
# Binary floating-point numbers

The 64-bit binary numbers in which approximate values are computed. A finite number is a mantissa
of at most 53 bits times a power of two, and every operation rounds its exact result once, to the
nearest number with ties to the even mantissa.
-/

namespace Allowance.Number

inductive Binary64 where
  | finite (negative : Bool) (mantissa : Nat) (exponent : Int)
  | infinity (negative : Bool)
  | nan
  deriving Repr, DecidableEq

namespace Binary64

/-- The exponent of the smallest positive number. -/
def minExponent : Int := -1074

/-- The greatest exponent of a finite number. -/
def maxExponent : Int := 971

/-- Numerator and denominator of a quotient that is to be counted in units of `2 ^ exponent`. -/
def scaled (num den : Nat) (exponent : Int) : Nat × Nat :=
  if exponent < 0 then (num * twoPow exponent.natAbs, den) else (num, den * twoPow exponent.natAbs)

/-- The greatest power of two, as an exponent, that does not exceed a positive quotient. -/
def floorLog (num den : Nat) : Int :=
  let guess : Int := (num.log2 : Int) - den.log2
  let (n, d) := scaled num den guess
  if d ≤ n then guess else guess - 1

/-- The number nearest to a quotient with positive denominator. -/
def nearest (negative : Bool) (num den : Nat) : Binary64 :=
  if num = 0 then
    finite negative 0 minExponent
  else
    let exponent := max minExponent (floorLog num den - 52)
    let (n, d) := scaled num den exponent
    let mantissa := divHalfEven n d
    let (mantissa, exponent) :=
      if mantissa = twoPow 53 then (twoPow 52, exponent + 1) else (mantissa, exponent)
    if maxExponent < exponent then infinity negative else finite negative mantissa exponent

/-- The number nearest to `digits * 10 ^ exponent`. Numbers far outside the range are settled by
their size alone. -/
def ofScientific (negative : Bool) (digits : Nat) (exponent : Int) : Binary64 :=
  let size := Text.digitCount digits + exponent
  if digits = 0 ∨ size < -400 then finite negative 0 minExponent
  else if 400 < size then infinity negative
  else if exponent < 0 then nearest negative digits (tenPow exponent.natAbs)
  else nearest negative (digits * tenPow exponent.natAbs) 1

/-- The number nearest to a whole number, unless it is beyond all finite numbers. -/
def ofInt? (i : Int) : Option Binary64 :=
  match nearest (i < 0) i.natAbs 1 with
  | finite negative mantissa exponent => some (finite negative mantissa exponent)
  | _ => none

/-- The number nearest to a quotient with positive denominator, unless it is beyond all finite
numbers. -/
def ofRatio? (num : Int) (den : Nat) : Option Binary64 :=
  match nearest (num < 0) num.natAbs den with
  | finite negative mantissa exponent => some (finite negative mantissa exponent)
  | _ => none

/-- The product, rounded once. -/
def mul : Binary64 → Binary64 → Binary64
  | finite n₁ m₁ e₁, finite n₂ m₂ e₂ =>
    let exponent := e₁ + e₂
    if exponent < 0 then nearest (n₁ != n₂) (m₁ * m₂) (twoPow exponent.natAbs)
    else nearest (n₁ != n₂) (m₁ * m₂ * twoPow exponent.natAbs) 1
  | finite n₁ m₁ _, infinity n₂ => if m₁ = 0 then nan else infinity (n₁ != n₂)
  | infinity n₁, finite n₂ m₂ _ => if m₂ = 0 then nan else infinity (n₁ != n₂)
  | infinity n₁, infinity n₂ => infinity (n₁ != n₂)
  | nan, _ => nan
  | _, nan => nan

/-- The nearest whole number, ties to even; infinities and NaN have none. -/
def round? : Binary64 → Option Int
  | finite negative mantissa exponent =>
    let n : Int :=
      if exponent < 0 then divHalfEven mantissa (twoPow exponent.natAbs)
      else mantissa * twoPow exponent.natAbs
    some (if negative then -n else n)
  | _ => none

def isZero : Binary64 → Bool
  | finite _ mantissa _ => mantissa == 0
  | _ => false

end Binary64

end Allowance.Number
