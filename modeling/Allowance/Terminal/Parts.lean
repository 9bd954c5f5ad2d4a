import Allowance.Calendar.Week

/-!
# Which number of a date is which

Up to three numbers make a date. Some are known to be the year or the month; for the others the day
comes before the month, as far as that gives a month at all, and a number above 31 is a year. What
is not given is taken from the first day of the calendar.
-/

namespace Allowance.Terminal

open Calendar

/-- The numbers of a date in the order in which they were read, the places of those that are known
to be the year and the month, and whether a year was written with its century. -/
structure Parts where
  numbers : List Nat
  yearAt : Option Nat
  monthAt : Option Nat
  hasCentury : Bool

/-- Year, month and day, as far as they are given. -/
structure Fields where
  year : Option Nat
  month : Option Nat
  day : Option Nat
  deriving Repr, DecidableEq

/-- The year that is meant by a year without a century: it lies less than fifty years after the
present one and at most fifty years before it. -/
def fullYear (present year : Nat) : Nat :=
  if 100 ≤ year then
    year
  else
    let year := present / 100 * 100 + year
    if present + 50 ≤ year then year - 100 else if year + 50 < present then year + 100 else year

def lastDay : Nat := 31

def lastMonth : Nat := 12

namespace Parts

def empty : Parts :=
  ⟨[], none, none, false⟩

def add (p : Parts) (n : Nat) : Parts :=
  { p with numbers := p.numbers ++ [n] }

/-- The parts with a year and its century; there is only one. -/
def addYear? (p : Parts) (n : Nat) : Option Parts :=
  if p.yearAt.isSome then none
  else some { p.add n with yearAt := some p.numbers.length, hasCentury := true }

/-- The parts with a month that is known to be one; there is only one. -/
def addMonth? (p : Parts) (n : Nat) : Option Parts :=
  if p.monthAt.isSome then none
  else some { p.add n with monthAt := some p.numbers.length }

/-- Whether a number, which may have a fraction, can be the day of what is known so far. Without a
year a leap year is assumed. -/
def fitsDay (p : Parts) (n : Nat) (hasFraction : Bool) : Bool :=
  let year := (p.yearAt.bind (p.numbers[·]?)).getD 2000
  let last := match p.monthAt.bind (p.numbers[·]?) with
    | some month => monthLength year month
    | none => lastDay
  1 ≤ n && (n < last || (n == last && !hasFraction))

/-- The number at neither of two places. -/
def otherNumber? (p : Parts) (i j : Nat) : Option Nat :=
  ((List.range p.numbers.length).find? fun k => k != i && k != j).bind (p.numbers[·]?)

/-- Year, month and day by what is known of the numbers. -/
def known (p : Parts) : Fields :=
  ⟨p.yearAt.bind (p.numbers[·]?), p.monthAt.bind (p.numbers[·]?),
    match p.yearAt, p.monthAt with
    | some i, some j => p.otherNumber? i j
    | _, _ => none⟩

/-- A number that is a year if it can be no day. -/
def yearOrDay (month : Option Nat) (n : Nat) : Fields :=
  if lastDay < n then ⟨some n, month, none⟩ else ⟨none, month, some n⟩

/-- Two numbers of which neither is known to be the month. -/
def ofTwo (a b : Nat) : Fields :=
  if lastDay < a then ⟨some a, some b, none⟩
  else if lastDay < b then ⟨some b, some a, none⟩
  else if b ≤ lastMonth then ⟨none, some b, some a⟩
  else ⟨none, some a, some b⟩

/-- Three numbers of which none is known to be the month. -/
def ofThree (yearFirst : Bool) (a b c : Nat) : Fields :=
  if yearFirst || lastDay < a then
    if c ≤ lastMonth then ⟨some a, some c, some b⟩ else ⟨some a, some b, some c⟩
  else if lastMonth < a || b ≤ lastMonth then ⟨some c, some b, some a⟩
  else ⟨some c, some a, some b⟩

/-- Three numbers of which the one at a place is the month. -/
def ofThreeAround (monthAt : Nat) (a b c : Nat) : Fields :=
  match monthAt with
  | 0 => if lastDay < b then ⟨some b, some a, some c⟩ else ⟨some c, some a, some b⟩
  | 1 => if lastDay < a then ⟨some a, some b, some c⟩ else ⟨some c, some b, some a⟩
  | _ => if lastDay < b then ⟨some b, some c, some a⟩ else ⟨some a, some c, some b⟩

/-- Which number is which, unless there are too many. -/
def fields? (p : Parts) : Option Fields :=
  match p.numbers, p.yearAt, p.monthAt with
  | [], _, _ => some ⟨none, none, none⟩
  | [_], none, some _ => some p.known
  | [_], some _, _ => some p.known
  | [n], none, none => some (yearOrDay none n)
  | [_, _], some _, some _ => some p.known
  | [a, b], none, some 0 => some (yearOrDay (some a) b)
  | [a, b], none, some _ => some (yearOrDay (some b) a)
  | [a, b], _, none => some (ofTwo a b)
  | [_, _, _], some _, some _ => some p.known
  | [a, b, c], none, some i => some (ofThreeAround i a b c)
  | [a, b, c], year, none => some (ofThree (year == some 0) a b c)
  | _, _, _ => none

/-- The date of the numbers, where a year without a century lies around the present one. If there is
no day among them, a weekday from 0 for Monday moves it to the first such day. -/
def date? (p : Parts) (present : Nat) (day : Option Nat) : Option Date := do
  let fields ← p.fields?
  if fields = ⟨none, none, none⟩ then
    none
  else
    let year := fields.year.map fun year => if p.hasCentury then year else fullYear present year
    let date ← Date.ofFields? (year.getD 1) (fields.month.getD 1) (fields.day.getD 1)
    match fields.day, day with
    | none, some day => onOrAfter? day date
    | _, _ => some date

end Parts

end Allowance.Terminal
