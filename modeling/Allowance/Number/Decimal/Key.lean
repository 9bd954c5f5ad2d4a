import Allowance.Number.Decimal.Basic
import Allowance.Number.Power

/-!
# Order and hash of decimals

Decimals are compared by value. Their hash is the residue of the value modulo a Mersenne prime, so
that equal values have equal hashes however they are written.
-/

namespace Allowance.Number.Decimal

def signed (d : Decimal) : Int :=
  if d.negative then -d.coefficient else d.coefficient

/-- The coefficients of two decimals at their smaller exponent. -/
def aligned (a b : Decimal) : Int × Int :=
  let low := min a.exponent b.exponent
  (a.signed * tenPow (a.exponent - low).toNat, b.signed * tenPow (b.exponent - low).toNat)

def less (a b : Decimal) : Bool :=
  let (x, y) := aligned a b
  x < y

/-- The decimal of the same value without trailing zeros in its coefficient. -/
def normalize (d : Decimal) : Decimal :=
  if d.coefficient = 0 then
    ⟨d.negative, 0, 0⟩
  else
    let zeros := ((Nat.toDigits 10 d.coefficient).reverse.takeWhile (· == '0')).length
    ⟨d.negative, d.coefficient / tenPow zeros, d.exponent + zeros⟩

/-- The modulus of hashes, the Mersenne prime `2 ^ 61 - 1`. -/
def hashModulus : Nat := twoPow 61 - 1

/-- A power modulo the modulus, by repeated squaring of the base. -/
def powerResidue (base exponent : Nat) : Nat :=
  if _positive : exponent = 0 then
    1
  else
    let half := powerResidue (base * base % hashModulus) (exponent / 2)
    if exponent % 2 = 0 then half else base * half % hashModulus
termination_by exponent
decreasing_by omega

/-- The residue of ten or, for negative powers, of its inverse. -/
def hashBase (exponent : Int) : Nat :=
  if exponent < 0 then powerResidue 10 (hashModulus - 2) else 10

/-- The hash of a value: its residue with its sign, where -2 stands for -1. -/
def hash (d : Decimal) : Int :=
  let residue :=
    d.coefficient * powerResidue (hashBase d.exponent) d.exponent.natAbs % hashModulus
  let value : Int := if d.negative then -residue else residue
  if value = -1 then -2 else value

end Allowance.Number.Decimal
