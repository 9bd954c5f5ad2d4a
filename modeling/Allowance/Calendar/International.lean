import Allowance.Calendar.Week
import Allowance.Text.Digit

/-!
# Dates in the international forms

Year, month and day (`2025-02-03`, `20250203`), or year, week and weekday (`2025-W06-1`,
`2025W061`), of which the weekday may be left out. The digits are ASCII. After a form without dashes
that ends in a day, two more bytes are ignored.
-/

namespace Allowance.Calendar

/-- The number that ASCII digits write. -/
def asciiNumber? (cs : List Char) : Option Nat :=
  if cs.all Text.isAsciiDigit && !cs.isEmpty then Text.digitsValue? cs else none

/-- The number that exactly the given count of ASCII digits write. -/
def fixedNumber? (count : Nat) (cs : List Char) : Option Nat :=
  if cs.length = count then asciiNumber? cs else none

/-- Whether what follows a day is ignored: nothing, or two bytes. -/
def isIgnored (rest : List Char) : Bool :=
  let size := (String.ofList rest).utf8ByteSize
  size == 0 || size == 2

/-- A date in one of the international forms. -/
def international? (cs : List Char) : Option Date := do
  let year ← fixedNumber? 4 (cs.take 4)
  match cs.drop 4 with
  | '-' :: 'W' :: w₁ :: w₂ :: rest =>
    let week ← fixedNumber? 2 [w₁, w₂]
    match rest with
    | [] => ofWeek? year week 1
    | ['-', d] => ofWeek? year week (← fixedNumber? 1 [d])
    | _ => none
  | 'W' :: w₁ :: w₂ :: rest =>
    let week ← fixedNumber? 2 [w₁, w₂]
    match rest with
    | [] => ofWeek? year week 1
    | d :: rest => if isIgnored rest then ofWeek? year week (← fixedNumber? 1 [d]) else none
  | ['-', m₁, m₂, '-', d₁, d₂] =>
    Date.ofFields? year (← fixedNumber? 2 [m₁, m₂]) (← fixedNumber? 2 [d₁, d₂])
  | m₁ :: m₂ :: d₁ :: d₂ :: rest =>
    if isIgnored rest then
      Date.ofFields? year (← fixedNumber? 2 [m₁, m₂]) (← fixedNumber? 2 [d₁, d₂])
    else none
  | _ => none

end Allowance.Calendar
