import Allowance.Failure

/-!
# Calendar dates

Days of the Gregorian calendar in the years 1 to 9999. A date can only be built from a year, month
and day that exist, and stepping past the last day fails.
-/

namespace Allowance.Calendar

def isLeapYear (year : Nat) : Bool :=
  year % 4 == 0 && (year % 100 != 0 || year % 400 == 0)

def monthLength (year month : Nat) : Nat :=
  if month = 2 then (if isLeapYear year then 29 else 28)
  else if month = 4 ∨ month = 6 ∨ month = 9 ∨ month = 11 then 30
  else 31

theorem monthLength_bounds (year month : Nat) :
    28 ≤ monthLength year month ∧ monthLength year month ≤ 31 := by
  unfold monthLength
  repeat' split
  all_goals omega

def yearLength (year : Nat) : Nat :=
  if isLeapYear year then 366 else 365

def lastYear : Nat := 9999

/-- Whether year, month and day name a day of the calendar. -/
def IsDate (year month day : Nat) : Prop :=
  1 ≤ year ∧ year ≤ lastYear ∧ 1 ≤ month ∧ month ≤ 12 ∧ 1 ≤ day ∧ day ≤ monthLength year month

instance (year month day : Nat) : Decidable (IsDate year month day) := by
  unfold IsDate
  infer_instance

/-- The greatest number that year, month or day may be before it is not even looked at. -/
def fieldLimit : Int := 2147483648

end Calendar

structure Date where
  year : Nat
  month : Nat
  day : Nat
  isDate : Calendar.IsDate year month day
  deriving Repr, DecidableEq

namespace Date

open Calendar

/-- The date of a year, month and day, if there is such a day. -/
def ofFields? (year month day : Nat) : Option Date :=
  if h : IsDate year month day then some ⟨year, month, day, h⟩ else none

theorem fields_of_ofFields? {year month day : Nat} {date : Date}
    (h : ofFields? year month day = some date) :
    date.year = year ∧ date.month = month ∧ date.day = day := by
  unfold ofFields? at h
  split at h
  next =>
    cases h
    exact ⟨rfl, rfl, rfl⟩
  next => cases h

/-- The date of a year, month and day given as arbitrary numbers. -/
def ofNumbers (year month day : Int) : Except Failure Date :=
  if [year, month, day].any fun n => n < -fieldLimit || fieldLimit ≤ n then
    .error .outOfRange
  else if year < 0 ∨ month < 0 ∨ day < 0 then
    .error .noSuchDay
  else
    match ofFields? year.toNat month.toNat day.toNat with
    | some date => .ok date
    | none => .error .noSuchDay

/-- Year, month and day as one number of eight digits, which orders dates. -/
def key (date : Date) : Int :=
  date.year * 10000 + date.month * 100 + date.day

/-- The date as `YYYY-MM-DD`. -/
def text (date : Date) : String :=
  Text.paddedNumeral 4 date.year ++ "-" ++ Text.paddedNumeral 2 date.month ++ "-" ++
    Text.paddedNumeral 2 date.day

/-- The following day, unless this is the last one. -/
def next? (date : Date) : Option Date :=
  (ofFields? date.year date.month (date.day + 1)).or <|
    (ofFields? date.year (date.month + 1) 1).or (ofFields? (date.year + 1) 1 1)

theorem key_lt_next {date next : Date} (h : date.next? = some next) : date.key < next.key := by
  obtain ⟨_, _, _, hdecember, _, hend⟩ := date.isDate
  have hlength := (monthLength_bounds date.year date.month).2
  rw [next?, Option.or_eq_some_iff, Option.or_eq_some_iff] at h
  unfold key
  rcases h with hday | ⟨_, hmonth | ⟨_, hyear⟩⟩
  · have := fields_of_ofFields? hday
    omega
  · have := fields_of_ofFields? hmonth
    omega
  · have := fields_of_ofFields? hyear
    omega

def before (a b : Date) : Bool :=
  a.key < b.key

/-- The number of days in the first months of a year. -/
def daysBefore (year : Nat) : Nat → Nat
  | 0 => 0
  | months + 1 => daysBefore year months + monthLength year (months + 1)

/-- The number of days from the start of the year, the day itself included. -/
def dayOfYear (date : Date) : Nat :=
  daysBefore date.year (date.month - 1) + date.day

/-- The number of days from the start of the calendar, the day itself included. -/
def ordinal (date : Date) : Nat :=
  let years := date.year - 1
  years * 365 + years / 4 - years / 100 + years / 400 + date.dayOfYear

/-- The dates from one day on, at most the given number of them. -/
def following : Nat → Date → List Date
  | 0, _ => []
  | count + 1, date =>
    match date.next? with
    | some next => date :: following count next
    | none => [date]

end Date

end Allowance
