import Allowance.Number.Decimal.Basic

/-!
# Decimal numerals

Reading and writing of decimals. A numeral is a sign, digits of any script with a decimal point
among or beside them, and an exponent after `e`. Infinities and NaN are no numbers here.
-/

namespace Allowance.Number.Decimal

/-- The greatest exponent of a leading digit that can be read. -/
def readLimit : Int := 999999999999999999

/-- The least exponent of a last digit that can be read. -/
def readFloor : Int := -1999999999999999997

/-- A sign and the characters after it. -/
def splitSign : List Char → Bool × List Char
  | '-' :: rest => (true, rest)
  | '+' :: rest => (false, rest)
  | cs => (false, cs)

/-- The value of an exponent: an optional sign and digits. -/
def exponent? (cs : List Char) : Option Int :=
  let (negative, digits) := splitSign cs
  if digits.isEmpty then none
  else (Text.digitsValue? digits).map fun n => if negative then -n else n

/-- Coefficient and exponent of digits around a decimal point. -/
def mantissa? (cs : List Char) : Option (Nat × Int) := do
  let whole := cs.takeWhile (· ≠ '.')
  let fraction := (cs.dropWhile (· ≠ '.')).drop 1
  if whole.isEmpty && fraction.isEmpty then
    none
  else
    return (← Text.digitsValue? (whole ++ fraction), -fraction.length)

def isReadable (d : Decimal) : Bool :=
  let top := if d.coefficient = 0 then d.exponent else d.leading
  readFloor ≤ d.exponent && top ≤ readLimit

/-- The decimal that a text writes; blanks around it are ignored. -/
def ofText? (s : String) : Option Decimal := do
  let (negative, cs) := splitSign (Text.trimChars s.toList)
  let isMark (c : Char) : Bool := c = 'e' || c = 'E'
  let (coefficient, exponent) ← mantissa? (cs.takeWhile (!isMark ·))
  let shift ← match cs.dropWhile (!isMark ·) with
    | [] => some 0
    | _ :: rest => exponent? rest
  let d : Decimal := ⟨negative, coefficient, exponent + shift⟩
  if isReadable d then some d else none

/-- The text of a decimal: positional if its exponent is not positive and its leading digit is at
most six places behind the point, otherwise with one digit before the point and an exponent. -/
def text (d : Decimal) : String :=
  let digits := Nat.toDigits 10 d.coefficient
  let point : Int := d.exponent + digits.length
  let sign := if d.negative then "-" else ""
  if d.exponent ≤ 0 ∧ -6 < point then
    let whole := if point ≤ 0 then ['0'] else digits.take point.natAbs
    let fraction :=
      if point ≤ 0 then List.replicate point.natAbs '0' ++ digits else digits.drop point.natAbs
    sign ++ String.ofList whole ++
      (if fraction.isEmpty then "" else "." ++ String.ofList fraction)
  else
    let exponent := point - 1
    let fraction := if digits.length = 1 then [] else '.' :: digits.drop 1
    sign ++ String.ofList (digits.take 1 ++ fraction) ++
      (if exponent = 0 then "" else
        "E" ++ (if exponent < 0 then "-" else "+") ++ Text.numeral exponent.natAbs)

end Allowance.Number.Decimal
