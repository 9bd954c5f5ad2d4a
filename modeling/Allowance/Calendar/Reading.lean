import Allowance.Calendar.International
import Allowance.Failure
import Allowance.Text.Blank

/-!
# Dates typed by a user

A date is read in the international forms first, with blanks around it ignored. Any other text is
left to a reader of dates that comes from a library.
-/

namespace Allowance.Calendar

/-- What a library makes of a text that may be a date. -/
inductive DateReading where
  | date (d : Date)
  /-- There is no date, and nothing is wrong. -/
  | nothing
  | refused (why : String)
  /-- The library itself fails, in a way that it has a name for. -/
  | failed (kind : String)
  deriving Repr, DecidableEq

abbrev DateReader := String → DateReading

def parseDate (reader : DateReader) (s : String) : Except Failure Date :=
  match international? (Text.trimChars s.toList) with
  | some date => .ok date
  | none =>
    match reader s with
    | .date date => .ok date
    | .nothing => .error (.misuse (.unreadableDate s none))
    | .refused why => .error (.misuse (.unreadableDate s (some why)))
    | .failed kind => .error (.foreign kind)

end Allowance.Calendar
