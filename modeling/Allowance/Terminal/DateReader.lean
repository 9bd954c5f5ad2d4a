import Allowance.Calendar.Reading
import Allowance.Terminal.Customary

/-!
# Dates in ordinary forms

Two numbers with a year of four digits behind them come first, then a year alone and a year with a
month, and last the customary forms. The day stands before the month, unless only the other order
gives a month: `12/13/2025` is the thirteenth of December.
-/

namespace Allowance.Terminal

open Calendar

/-- The characters that may separate two numbers from each other and from the year behind them. -/
def separators : List Char := ['-', '.', '/', ' ']

/-- The white space that may stand around a number. -/
def isMargin (c : Char) : Bool :=
  c = ' ' || ('\t' ≤ c && c ≤ '\r')

/-- A number of one or two ASCII digits at the start of a text, and what follows. -/
def shortNumber? : List Char → Option (Nat × List Char)
  | c :: d :: rest =>
    if Text.isAsciiDigit d then (fixedNumber? 2 [c, d]).map (·, rest)
    else (fixedNumber? 1 [c]).map (·, d :: rest)
  | [c] => (fixedNumber? 1 [c]).map (·, [])
  | [] => none

/-- A number of one or two ASCII digits with a separator behind it, and what follows. -/
def separatedNumber? (cs : List Char) : Option (Nat × List Char) := do
  match ← shortNumber? cs with
  | (n, c :: rest) => if separators.contains c then some (n, rest) else none
  | _ => none

/-- The first year that counts as a year of four digits. -/
def firstLongYear : Nat := 1000

/-- Two numbers and a year of four digits behind separators. -/
def yearLast? (cs : List Char) : Option (Nat × Nat × Nat) := do
  let (first, rest) ← separatedNumber? cs
  let (second, rest) ← separatedNumber? rest
  let year ← fixedNumber? 4 rest
  if firstLongYear ≤ year then some (first, second, year) else none

/-- The date of a year and two numbers: the day comes first, unless the second number can be no
month. -/
def dayFirst? (year first second : Nat) : Option Date :=
  if lastMonth < second then Date.ofFields? year first second
  else Date.ofFields? year second first

/-- Whether a text is a number below a thousand, which is no date by itself. -/
def isSmallNumber (cs : List Char) : Bool :=
  let trimmed := Text.trimBy isMargin cs
  let (negative, cs) := match trimmed with
    | '-' :: rest => (true, rest)
    | '+' :: rest => (false, rest)
    | rest => (false, rest)
  let whole := cs.takeWhile Text.isAsciiDigit
  let part := (cs.drop whole.length).drop 1
  let isNumber := (cs.drop whole.length).head?.all (· = '.') && part.all Text.isAsciiDigit &&
    !(whole.isEmpty && part.isEmpty)
  isNumber && (negative || (Text.digitsValue? whole).all (· < firstLongYear))

/-- The first day of the year in a text of four characters: digits of any script, with blanks around
them. -/
def bareYear? (cs : List Char) : Option Date := do
  let digits := Text.trimChars cs
  if cs.length = 4 ∧ digits ≠ [] then newYear? (← Text.digitsValue? digits) else none

/-- The first day of a month that is written as its number behind the year, as in `2025-02`. -/
def numberedMonth? (s : String) : Option Date := do
  let (year, month) ← (parseMonth s).toOption
  Date.ofFields? year month 1

/-- The first day of a month that is written by the first three letters of its name, blanks and a
year of four digits. -/
def namedMonth? (cs : List Char) : Option Date := do
  let month ← monthOfName? (String.ofList ((cs.take 3).map Char.toLower))
  let blanks := (cs.drop 3).takeWhile Text.isBlank
  let digits := (cs.drop 3).dropWhile Text.isBlank
  if blanks ≠ [] ∧ digits.length = 4 then Date.ofFields? (← Text.digitsValue? digits) month 1
  else none

/-- A date that is not in an international form. A small number with a zero in front is not
refused. -/
def ordinary? (present : Nat) (s : String) : Option Date :=
  let cs := s.toList
  if cs.head? ≠ some '0' ∧ isSmallNumber cs then
    none
  else
    match yearLast? cs with
    | some (first, second, year) => dayFirst? year first second
    | none => bareYear? cs <|> numberedMonth? s <|> namedMonth? cs <|> customary? present cs

/-- The reader of dates in a year. A text that is none of the forms is no date. -/
def dateReader (present : Nat) : DateReader := fun s =>
  match ordinary? present s with
  | some date => .date date
  | none => .nothing

end Allowance.Terminal
