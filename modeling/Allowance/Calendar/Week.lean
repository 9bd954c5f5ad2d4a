import Allowance.Calendar.Date

/-!
# Weeks

Weekdays, and dates by week of the year. The first week of a year is the one with its first
Thursday, so the days around New Year may belong to a week of the year before or after.
-/

namespace Allowance.Calendar

/-- The weekday of a date, from 0 for Monday. -/
def weekday (date : Date) : Nat :=
  (date.ordinal + 6) % 7

/-- The first of January. -/
def newYear? (year : Nat) : Option Date :=
  Date.ofFields? year 1 1

/-- Whether a year has 53 weeks. -/
def hasLongLastWeek (year : Nat) : Bool :=
  match newYear? year with
  | some date => weekday date == 3 || (weekday date == 2 && isLeapYear year)
  | none => false

/-- The date of a day counted within a year, given the months that are left. -/
def dateInYear? (year : Nat) : Nat → List Nat → Option Date
  | _, [] => none
  | day, month :: months =>
    let length := monthLength year month
    if day ≤ length then Date.ofFields? year month day
    else dateInYear? year (day - length) months

/-- The date of a day counted from the first of January, which may fall into the year before or
after. -/
def ofDayOfYear? (year : Nat) (day : Int) : Option Date :=
  let months := List.range' 1 12
  if day < 1 then
    dateInYear? (year - 1) (day + yearLength (year - 1)).toNat months
  else if yearLength year < day then
    dateInYear? (year + 1) (day - yearLength year).toNat months
  else
    dateInYear? year day.toNat months

/-- The date of a weekday, from 1 for Monday, in a week of a year. -/
def ofWeek? (year week day : Nat) : Option Date := do
  let first ← newYear? year
  if week < 1 ∨ 53 < week ∨ (week = 53 ∧ !hasLongLastWeek year) ∨ day < 1 ∨ 7 < day then
    none
  else
    let offset : Int := if weekday first ≤ 3 then weekday first else (weekday first : Int) - 7
    ofDayOfYear? year ((week - 1 : Int) * 7 + day - offset)

/-- The first date with a weekday, from 0 for Monday, that does not come before a date. -/
def onOrAfter? (day : Nat) (date : Date) : Option Date :=
  let distance := (day + 7 - weekday date) % 7
  (date.following (distance + 1))[distance]?

end Allowance.Calendar
