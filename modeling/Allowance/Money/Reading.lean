import Allowance.Money.Scale
import Allowance.Number.Decimal.Text
import Allowance.Number.Power

/-!
# Reading money

Amounts typed by a user or taken from a document. A decimal is brought to minor units in decimal
arithmetic of 28 digits and a half of a minor unit is rounded away from zero.
-/

namespace Allowance.Money

open Number

/-- Money of whole units. At a negative precision the unit is a binary fraction, which has to be
within range even though the precision is refused afterwards. -/
def ofWhole (n precision : Int) : Except Failure Money :=
  match precision with
  | .ofNat digits => .ok ⟨n * tenPow digits, digits⟩
  | .negSucc _ =>
    if (Binary64.ofInt? precision).isNone || (Binary64.ofInt? n).isNone then .error .outOfRange
    else make n precision

/-- The value of a decimal, rounded to the precision. -/
def ofDecimal (d : Decimal) (precision : Int) : Except Failure Money := do
  let scaled ← Failure.ofSignal (d.timesPowerOfTen precision)
  let amount ← Failure.ofSignal scaled.toWhole
  make amount precision

/-- The text without the separators that may stand between digits. -/
def withoutSeparators (s : String) : String :=
  String.ofList ((Text.trimChars s.toList).filter fun c => c != ',' && c != '_')

def ofText (s : String) (precision : Int) : Except Failure Money :=
  match Decimal.ofText? (withoutSeparators s) with
  | some d => ofDecimal d precision
  | none => .error (.rejected (.notMoney (.text s)))

/-- The decimal that a binary number is written as. -/
def decimalOf : Binary64 → Option Decimal
  | .finite negative mantissa exponent =>
    if mantissa = 0 then
      some ⟨negative, 0, 0⟩
    else
      let shortest := Binary64.shortest mantissa exponent
      some ⟨negative, shortest.digits, shortest.exponent⟩
  | _ => none

/-- The amount of a binary number, taken from its shortest decimal text. -/
def ofReal (x : Binary64) (precision : Int) : Except Failure Money :=
  match decimalOf x with
  | some d => ofDecimal d precision
  | none => .error (.rejected (.notMoney (.real x)))

/-- The amount of a number or a decimal text. -/
def ofValue (value : Data.Value) (precision : Int) : Except Failure Money :=
  match value with
  | .integer n => ofWhole n precision
  | .real x => ofReal x precision
  | .text s => ofText s precision
  | _ => .error (.ofRejection (.notMoney value))

def ofText? (s : Option String) (precision : Int) : Except Failure (Option Money) :=
  match s with
  | none => .ok none
  | some s => (ofText s precision).map some

def toReal (m : Money) : Except Failure Binary64 :=
  match Binary64.ofRatio? m.amount m.unit with
  | some x => .ok x
  | none => .error .outOfRange

/-- The value as a decimal of at most 28 digits. -/
def toDecimal (m : Money) : Except Failure Decimal :=
  Failure.ofSignal ((Decimal.ofInt m.amount).scale (-m.precision))

end Allowance.Money
