import Allowance.Calendar.Date
import Allowance.Text.Digit

/-!
# Calendar months

The first and last day of a month, its length and name, and the reader of months typed as
`YYYY-MM`.
-/

namespace Allowance.Calendar

def monthNames : List String :=
  ["January", "February", "March", "April", "May", "June", "July", "August", "September",
    "October", "November", "December"]

/-- The first day of the month after a month. The last month of the calendar has none. -/
def firstOfNextMonth (year month : Int) : Except Failure Date := do
  let date ← Date.ofNumbers year month 28
  let next :=
    if date.month = 12 then Date.ofFields? (date.year + 1) 1 1
    else Date.ofFields? date.year (date.month + 1) 1
  match next with
  | some first => .ok first
  | none => .error .outOfRange

/-- The number of days in a month that has a successor. -/
def daysInMonth (year month : Int) : Except Failure Nat := do
  let _ ← firstOfNextMonth year month
  return monthLength year.toNat month.toNat

/-- A month's name and year, such as `February 2025`. -/
def monthLabel (year month : Nat) : String :=
  (monthNames[month - 1]?).getD "" ++ " " ++ Text.numeral year

/-- The first and last day of a month and its label. -/
def monthRange (year month : Int) : Except Failure (Date × Date × String) := do
  let first ← Date.ofNumbers year month 1
  let _ ← firstOfNextMonth year month
  let last ← Date.ofNumbers year month (monthLength first.year first.month)
  return (first, last, monthLabel first.year first.month)

/-- The number of a month of the year: one or two digits, the first of which may be zero. -/
def monthNumber? : List Char → Option Nat
  | ['1', '0'] => some 10
  | ['1', '1'] => some 11
  | ['1', '2'] => some 12
  | ['0', c] => if '1' ≤ c ∧ c ≤ '9' then Text.digitValue? c else none
  | [c] => if '1' ≤ c ∧ c ≤ '9' then Text.digitValue? c else none
  | _ => none

/-- Year and month of a text `YYYY-MM`; the year may use the digits of any script. -/
def parseMonth (s : String) : Except Failure (Nat × Nat) :=
  let cs := s.toList
  match Text.digitsValue? (cs.take 4), cs.drop 4 with
  | some year, '-' :: rest =>
    match monthNumber? rest with
    | some month => if year = 0 then .error .noSuchDay else .ok (year, month)
    | none => .error .noSuchDay
  | _, _ => .error .noSuchDay

end Allowance.Calendar
