import Allowance.Number.Shortest
import Allowance.Text.Numeral
import Allowance.Text.Quoted

/-!
# Data values

Values whose kind is known only once they are read: the contents of a configuration file and the
amounts of an exchange format. `Value.literal` is how error messages show them.
-/

namespace Allowance.Data

/-- A calendar day as it is written in a document. -/
structure DayStamp where
  year : Nat
  month : Nat
  day : Nat
  deriving Repr, DecidableEq

/-- A time of day as it is written in a document. -/
structure TimeStamp where
  hour : Nat
  minute : Nat
  second : Nat
  microsecond : Nat
  deriving Repr, DecidableEq

/-- A value of any kind. A moment may carry its offset from universal time in minutes. -/
inductive Value where
  | null
  | boolean (b : Bool)
  | integer (i : Int)
  | real (x : Number.Binary64)
  | text (s : String)
  | day (d : DayStamp)
  | time (t : TimeStamp)
  | moment (d : DayStamp) (t : TimeStamp) (offset : Option Int)
  | list (items : List Value)
  | table (entries : List (String × Value))
  deriving Repr, Inhabited

/-- A table: keys in the order in which they were first written. -/
abbrev Table := List (String × Value)

/-- The table with a key set: in place if the key is present, otherwise last. -/
def Table.set (entries : Table) (key : String) (value : Value) : Table :=
  if entries.any (·.1 == key) then
    entries.map fun entry => if entry.1 == key then (key, value) else entry
  else
    entries ++ [(key, value)]

namespace Value

/-- The arguments that show a time of day; seconds and microseconds are left out when zero. -/
def timeArguments (t : TimeStamp) : List Nat :=
  if t.microsecond ≠ 0 then [t.hour, t.minute, t.second, t.microsecond]
  else if t.second ≠ 0 then [t.hour, t.minute, t.second]
  else [t.hour, t.minute]

def dayArguments (d : DayStamp) : List Nat :=
  [d.year, d.month, d.day]

def numerals (ns : List Nat) : String :=
  ", ".intercalate (ns.map Text.numeral)

/-- How a message shows an offset from universal time: whole days, rounded down, and seconds. -/
def offsetLiteral (minutes : Int) : String :=
  if minutes = 0 then
    "datetime.timezone.utc"
  else
    let seconds := (minutes % 1440) * 60
    let days := if minutes < 0 then "days=-1, " else ""
    "datetime.timezone(datetime.timedelta(" ++ days ++ "seconds=" ++ Text.signedNumeral seconds ++
      "))"

def momentLiteral (d : DayStamp) (t : TimeStamp) (offset : Option Int) : String :=
  "datetime.datetime(" ++ numerals (dayArguments d ++ timeArguments t) ++
    (match offset with
      | none => ""
      | some minutes => ", tzinfo=" ++ offsetLiteral minutes) ++ ")"

mutual

/-- The text that shows a value in a message. -/
def literal : Value → String
  | null => "None"
  | boolean b => if b then "True" else "False"
  | integer i => Text.signedNumeral i
  | real x => x.text
  | text s => Text.quoted s
  | day d => "datetime.date(" ++ numerals (dayArguments d) ++ ")"
  | time t => "datetime.time(" ++ numerals (timeArguments t) ++ ")"
  | moment d t offset => momentLiteral d t offset
  | list items => "[" ++ ", ".intercalate (itemLiterals items) ++ "]"
  | table entries => "\x7b" ++ ", ".intercalate (entryLiterals entries) ++ "\x7d"

def itemLiterals : List Value → List String
  | [] => []
  | v :: rest => literal v :: itemLiterals rest

def entryLiterals : List (String × Value) → List String
  | [] => []
  | (key, v) :: rest => (Text.quoted key ++ ": " ++ literal v) :: entryLiterals rest

end

mutual

/-- Whether a value holds a whole number with too many digits to be shown. -/
def hasLongNumeral : Value → Bool
  | integer i => !Text.hasNumeral i
  | list items => anyLongNumeral items
  | table entries => anyLongNumeralIn entries
  | _ => false

def anyLongNumeral : List Value → Bool
  | [] => false
  | v :: rest => hasLongNumeral v || anyLongNumeral rest

def anyLongNumeralIn : List (String × Value) → Bool
  | [] => false
  | (_, v) :: rest => hasLongNumeral v || anyLongNumeralIn rest

end

/-- A time of day with seconds, and with six decimals of a second if there are any. -/
def clockText (t : TimeStamp) : String :=
  ":".intercalate ([t.hour, t.minute, t.second].map (Text.paddedNumeral 2)) ++
    (if t.microsecond = 0 then "" else "." ++ Text.paddedNumeral 6 t.microsecond)

/-- A day as year, month and day joined by dashes. -/
def dayText (d : DayStamp) : String :=
  Text.paddedNumeral 4 d.year ++ "-" ++ Text.paddedNumeral 2 d.month ++ "-" ++
    Text.paddedNumeral 2 d.day

def offsetText (minutes : Int) : String :=
  (if minutes < 0 then "-" else "+") ++ Text.paddedNumeral 2 (minutes.natAbs / 60) ++ ":" ++
    Text.paddedNumeral 2 (minutes.natAbs % 60)

/-- The text of a value where a text is wanted: a text stands for itself, days and times are
written in the usual notation, and anything else is shown as in a message. -/
def plain : Value → String
  | text s => s
  | day d => dayText d
  | time t => clockText t
  | moment d t offset => dayText d ++ " " ++ clockText t ++ (offset.map offsetText).getD ""
  | v => v.literal

/-- Whether a value counts as not given: nothing, false, zero or empty. -/
def isVoid : Value → Bool
  | null => true
  | boolean b => !b
  | integer i => i == 0
  | real x => x.isZero
  | text s => s.isEmpty
  | list items => items.isEmpty
  | table entries => entries.isEmpty
  | _ => false

end Value

end Allowance.Data
