import Allowance.Number.Binary64
import Allowance.Number.Power

/-!
# Shortest decimal text of a binary number

The fewest decimal digits that read back as the same binary number, and of those the nearest to
it. A decimal reads back if it lies between the midpoints to the two neighbours; the midpoints
themselves do if the mantissa is even.
-/

namespace Allowance.Number

/-- Digits times a power of ten. -/
structure Scientific where
  digits : Nat
  exponent : Int
  deriving Repr, DecidableEq

namespace Scientific

/-- The same value with the trailing zeros of its digits moved into the exponent. -/
def strip (s : Scientific) : Scientific :=
  let digits := Nat.toDigits 10 s.digits
  let zeros := (digits.reverse.takeWhile (· == '0')).length
  if s.digits = 0 then s else ⟨s.digits / tenPow zeros, s.exponent + zeros⟩

end Scientific

namespace Binary64

/-- The values that read back as a positive number, in quarters of its last place: the lower
midpoint, the number itself and the upper midpoint. Below a power of two the gap is halved. -/
def midpoints (mantissa : Nat) (exponent : Int) : Nat × Nat × Nat :=
  let lower :=
    if mantissa = twoPow 52 ∧ minExponent < exponent then 4 * mantissa - 1 else 4 * mantissa - 2
  (lower, 4 * mantissa, 4 * mantissa + 2)

/-- The exponent of the leading decimal digit of a positive quotient. -/
def leadingExponent (num den : Nat) : Int :=
  if den ≤ num then
    (Text.digitCount (num / den) : Int) - 1
  else
    -(Text.digitCount ((den + num - 1) / num - 1) : Int)

/-- The best decimal with the given number of digits that reads back, if there is one. -/
def withDigits? (mantissa : Nat) (exponent : Int) (count : Nat) : Option Scientific :=
  let (lower, middle, upper) := midpoints mantissa exponent
  let quarter := exponent - 2
  let (num, den) : Nat × Nat :=
    if quarter < 0 then (1, twoPow quarter.natAbs) else (twoPow quarter.natAbs, 1)
  let last := leadingExponent (middle * num) den - (count - 1 : Int)
  let (unit, scale) : Nat × Nat :=
    if last < 0 then (1, tenPow last.natAbs) else (tenPow last.natAbs, 1)
  let target := middle * num * scale
  let step := unit * den
  let floor := target / step
  let readsBack (digits : Nat) : Bool :=
    let point := digits * step
    let low := lower * num * scale
    let high := upper * num * scale
    if mantissa % 2 = 0 then low ≤ point && point ≤ high else low < point && point < high
  match readsBack floor && floor != 0, readsBack (floor + 1) with
  | true, true =>
    let below := target - floor * step
    let above := (floor + 1) * step - target
    let digits :=
      if below < above then floor else if above < below then floor + 1 else floor + floor % 2
    some ⟨digits, last⟩
  | true, false => some ⟨floor, last⟩
  | false, true => some ⟨floor + 1, last⟩
  | false, false => none

/-- The shortest decimal that reads back as a positive finite number; 17 digits always suffice. -/
def shortest (mantissa : Nat) (exponent : Int) : Scientific :=
  let found := (List.range 17).findSome? fun i => withDigits? mantissa exponent (i + 1)
  (found.getD ⟨mantissa, exponent⟩).strip

/-- Digits with a decimal point after the given number of them. -/
def placePoint (digits : List Char) (point : Int) : List Char :=
  if point ≤ 0 then
    '0' :: '.' :: (List.replicate point.natAbs '0' ++ digits)
  else if digits.length ≤ point.natAbs then
    digits ++ List.replicate (point.natAbs - digits.length) '0' ++ ['.', '0']
  else
    digits.take point.natAbs ++ '.' :: digits.drop point.natAbs

/-- The text of a positive decimal: positional from `1e-4` up to `1e16`, otherwise with an
exponent of a sign and at least two digits. -/
def scientificText (s : Scientific) : String :=
  let digits := Nat.toDigits 10 s.digits
  let point := digits.length + s.exponent
  if -4 < point ∧ point ≤ 16 then
    String.ofList (placePoint digits point)
  else
    let exponent := point - 1
    let fraction := if digits.length = 1 then [] else '.' :: digits.drop 1
    String.ofList (digits.take 1 ++ fraction) ++ "e" ++ (if exponent < 0 then "-" else "+") ++
      Text.paddedNumeral 2 exponent.natAbs

/-- The text of a number: its shortest decimal, `inf` or `nan`. -/
def text : Binary64 → String
  | finite negative mantissa exponent =>
    let sign := if negative then "-" else ""
    if mantissa = 0 then sign ++ "0.0" else sign ++ scientificText (shortest mantissa exponent)
  | infinity negative => if negative then "-inf" else "inf"
  | nan => "nan"

end Binary64

end Allowance.Number
