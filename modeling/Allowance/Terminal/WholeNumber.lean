import Allowance.Text.Blank
import Allowance.Text.Numeral
import Allowance.Text.Pieces

/-!
# Whole numbers typed by a user

A whole number may have white space around it, a sign, single underscores between its digits and a
fraction of zeros: `+1_000.00` is one thousand.
-/

namespace Allowance.Terminal

open Text

/-- The number that ASCII digits write, in groups that single underscores separate. -/
def groupedNumber? (cs : List Char) : Option Nat :=
  let groups := pieces (· == '_') cs
  let digits := groups.flatten
  if groups.any (·.isEmpty) ∨ !digits.all isAsciiDigit ∨ numeralLimit < digits.length then none
  else digitsValue? digits

/-- What is left of a numeral without its fraction, of which every digit has to be zero. -/
def withoutFraction? (cs : List Char) : Option (List Char) :=
  match cs.dropWhile (· != '.') with
  | [] => some cs
  | _ :: fraction =>
    if fraction ≠ [] ∧ fraction.all (· == '0') then some (cs.takeWhile (· != '.')) else none

/-- The number that a numeral without a sign writes. -/
def unsignedNumber? (cs : List Char) : Option Nat :=
  (withoutFraction? cs).bind groupedNumber?

/-- The whole number that a text writes. -/
def wholeNumber? (s : String) : Option Int :=
  match trimBy isWhiteSpace s.toList with
  | '-' :: cs => (unsignedNumber? cs).map fun n => -(n : Int)
  | '+' :: cs => (unsignedNumber? cs).map Int.ofNat
  | cs => (unsignedNumber? cs).map Int.ofNat

end Allowance.Terminal
