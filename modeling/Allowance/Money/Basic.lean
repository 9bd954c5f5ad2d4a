import Allowance.Number.Power
import Allowance.Text.Numeral

/-!
# Money

A monetary value is a whole number of minor units together with the number of decimal digits of
the currency. Values of different precision are compared and added after both are brought to the
larger one, so nothing here ever rounds except where a name says so.
-/

namespace Allowance

/-- An amount of minor units, `amount / 10 ^ precision` in whole units. -/
structure Money where
  amount : Int
  precision : Nat
  deriving Repr, DecidableEq

namespace Money

/-- The precision that is meant where none is given. -/
def defaultPrecision : Nat := 2

/-- Nothing, at a precision. -/
def zero (precision : Nat) : Money :=
  ⟨0, precision⟩

/-- The number of minor units in a whole unit. -/
def unit (m : Money) : Nat :=
  Number.tenPow m.precision

/-- The same value with extra digits after the decimal point. -/
def extend (m : Money) (extra : Nat) : Money :=
  ⟨m.amount * Number.tenPow extra, m.precision + extra⟩

/-- Two values at the larger of their precisions. -/
def align (a b : Money) : Money × Money :=
  (a.extend (b.precision - a.precision), b.extend (a.precision - b.precision))

def add (a b : Money) : Money :=
  let (x, y) := align a b
  ⟨x.amount + y.amount, x.precision⟩

def sub (a b : Money) : Money :=
  let (x, y) := align a b
  ⟨x.amount - y.amount, x.precision⟩

def neg (m : Money) : Money :=
  ⟨-m.amount, m.precision⟩

def abs (m : Money) : Money :=
  ⟨m.amount.natAbs, m.precision⟩

instance : Add Money := ⟨add⟩

instance : Sub Money := ⟨sub⟩

instance : Neg Money := ⟨neg⟩

/-- Whether two amounts have the same value. -/
def same (a b : Money) : Bool :=
  let (x, y) := align a b
  x.amount == y.amount

def less (a b : Money) : Bool :=
  let (x, y) := align a b
  x.amount < y.amount

/-- Whether the first amount is not the larger one. -/
def atMost (a b : Money) : Bool :=
  less a b || same a b

/-- Whether the first amount is the larger one. -/
def greater (a b : Money) : Bool :=
  !less a b && !same a b

/-- Whether the first amount is not the smaller one. -/
def atLeast (a b : Money) : Bool :=
  !less a b

def isZero (m : Money) : Bool :=
  m.amount == 0

/-- The whole units, truncated toward zero. -/
def wholeUnits (m : Money) : Int :=
  m.amount.tdiv m.unit

/-- The greatest whole number of units that is not more. -/
def floor (m : Money) : Money :=
  ⟨m.amount.fdiv m.unit * m.unit, m.precision⟩

/-- The least whole number of units that is not less. -/
def ceil (m : Money) : Money :=
  ⟨-((-m.amount).fdiv m.unit) * m.unit, m.precision⟩

/-- The nearest whole number of units; a half goes away from zero. -/
def round (m : Money) : Money :=
  let whole := m.amount.natAbs / m.unit
  let rest := m.amount.natAbs % m.unit
  let whole := if m.unit ≤ rest * 2 then whole + 1 else whole
  ⟨m.amount.sign * (whole * m.unit), m.precision⟩

/-- The sum of amounts in their order; an empty sum is zero at the given precision. -/
def total (precision : Nat) : List Money → Money
  | [] => zero precision
  | first :: rest => rest.foldl (· + ·) first

/-- The amounts in ascending order; equal ones keep their order. -/
def ascending (values : List Money) : List Money :=
  values.mergeSort fun a b => !less b a

/-- Sign, the whole units as the given function writes them, a point and the minor units. -/
def write (symbol : String) (whole : Nat → String) (m : Money) : String :=
  let sign := if m.amount < 0 then "-" else ""
  let units := m.amount.natAbs / m.unit
  let minor := m.amount.natAbs % m.unit
  sign ++ symbol ++ whole units ++
    (if m.precision = 0 then "" else "." ++ Text.paddedNumeral m.precision minor)

/-- The plain decimal text, such as `-1234.50`. -/
def text (m : Money) : String :=
  m.write "" Text.numeral

/-- Whether the whole units and the minor units have few enough digits to be written as text. -/
def hasText (m : Money) : Bool :=
  Text.hasNumeral (m.amount.natAbs / m.unit) && Text.hasNumeral (m.amount.natAbs % m.unit)

/-- The amount for a reader, such as `-£1,234.50`: a currency symbol after the sign and commas
between the thousands. -/
def format (m : Money) (symbol : String) : String :=
  m.write symbol Text.groupedNumeral

/-- The text that shows the value in a message. -/
def literal (m : Money) : String :=
  "Money('" ++ m.text ++ "')"

end Money

end Allowance
