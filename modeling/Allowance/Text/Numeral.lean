import Allowance.Number.Power
import Allowance.Text.Digit

/-!
# Whole numbers as text

Plain, padded and grouped decimal numerals, and the number of digits up to which a whole number is
turned into text or read from it.
-/

namespace Allowance.Text

/-- The decimal digits of a natural number. -/
def numeral (n : Nat) : String :=
  String.ofList (Nat.toDigits 10 n)

/-- The decimal digits of a whole number, after a minus sign if it is negative. -/
def signedNumeral (i : Int) : String :=
  (if i < 0 then "-" else "") ++ numeral i.natAbs

/-- The number of decimal digits of a natural number; zero has one. -/
def digitCount (n : Nat) : Nat :=
  (Nat.toDigits 10 n).length

/-- The decimal digits of a natural number, padded with zeros on the left to a width. -/
def paddedNumeral (width n : Nat) : String :=
  let digits := Nat.toDigits 10 n
  String.ofList (List.replicate (width - digits.length) '0' ++ digits)

/-- Digits, last one first, with a comma after every third. -/
def groupReversed : List Char → List Char
  | a :: b :: c :: d :: rest => a :: b :: c :: ',' :: groupReversed (d :: rest)
  | digits => digits

/-- The decimal digits of a natural number with commas between the thousands. -/
def groupedNumeral (n : Nat) : String :=
  String.ofList (groupReversed (Nat.toDigits 10 n).reverse).reverse

/-- The longest numeral that is read or written as a whole number, in digits. -/
def numeralLimit : Nat := 4300

/-- Whether the numeral of a whole number is short enough to be written. -/
def hasNumeral (i : Int) : Bool :=
  i.natAbs < Number.tenPow numeralLimit

end Allowance.Text
