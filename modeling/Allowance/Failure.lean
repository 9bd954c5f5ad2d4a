import Allowance.Data.Value
import Allowance.Money.Basic
import Allowance.Number.Decimal.Basic

/-!
# Failures

Every way in which an operation can fail, by cause. `Failure.message` is the only place that words
them. A text that shows a whole number is limited by the number's digits, so that a refusal may fail
itself, while it is worded.
-/

namespace Allowance

/-- The things that a ledger keeps, as messages call them. -/
inductive Entity where
  | month
  | day
  | income
  | payment
  | spend
  | spendType
  deriving Repr, DecidableEq

def Entity.name : Entity → String
  | month => "month"
  | day => "day"
  | income => "income"
  | payment => "monthly payment"
  | spend => "spend"
  | spendType => "spend type"

/-- Why a user's input is refused. -/
inductive Rejection where
  | emptyText (field : String)
  | amountNotAllowed (field : String) (amount : Money)
  | notMoney (value : Data.Value)
  | unknownCurrency (code : String)
  | unknownPolicy (value : Data.Value)
  | unknownLogLevel (level : String)
  | monthOutOfRange (number : Int)
  | tooPrecise (amount : Money) (digits : Int)
  deriving Repr

def Rejection.message : Rejection → String
  | emptyText field => field ++ " can't be empty"
  | amountNotAllowed field amount => "invalid " ++ field ++ ": '" ++ amount.text ++ "'"
  | notMoney value => "invalid money value " ++ value.literal
  | unknownCurrency code => "invalid currency " ++ Text.quoted code
  | unknownPolicy value => "invalid spend_cost_policy " ++ value.literal
  | unknownLogLevel level => "invalid log_level " ++ Text.quoted level
  | monthOutOfRange number => "invalid month: '" ++ Text.signedNumeral number ++ "'"
  | tooPrecise amount digits =>
    "amount " ++ amount.text ++ " has more than " ++ Text.signedNumeral digits ++
      " digits after the decimal point"

/-- Whether all numbers that the message shows have few enough digits to be written. -/
def Rejection.isWritable : Rejection → Bool
  | amountNotAllowed _ amount => amount.hasText
  | notMoney value => !value.hasLongNumeral
  | unknownPolicy value => !value.hasLongNumeral
  | monthOutOfRange number => Text.hasNumeral number
  | tooPrecise amount digits => amount.hasText && Text.hasNumeral digits
  | _ => true

/-- Why a change to the spend types is refused. -/
inductive Conflict where
  | cycle
  | usedInPayments
  | usedInSpends
  | usedInSpendTypes
  deriving Repr, DecidableEq

def Conflict.message : Conflict → String
  | cycle => "spend type with new parent type will have a cycle"
  | usedInPayments => "spend type is used in monthly payments"
  | usedInSpends => "spend type is used in spends"
  | usedInSpendTypes => "spend type is used in spend types"

/-- What is wrong with a hierarchy of spend types. -/
inductive HierarchyFault where
  | unknownType
  | tooDeep
  deriving Repr, DecidableEq

def HierarchyFault.message : HierarchyFault → String
  | unknownType => "invalid spend type"
  | tooDeep => "spend type has too many parents or already has a cycle"

/-- Arguments outside the domain of an operation. -/
inductive Misuse where
  | negativePrecision
  | losesDigits (present wanted : Int)
  | divisorNotPositive (divisor : Int)
  | noIntervals
  | unreadableDate (text : String) (reason : Option String)
  deriving Repr, DecidableEq

def Misuse.message : Misuse → String
  | negativePrecision => "precision can't be negative"
  | losesDigits present wanted =>
    "can't lower precision from " ++ Text.signedNumeral present ++ " to " ++
      Text.signedNumeral wanted ++ " without rounding"
  | divisorNotPositive divisor =>
    "money can only be divided by a positive number, got " ++ Text.signedNumeral divisor
  | noIntervals => "number of intervals must be positive"
  | unreadableDate text reason =>
    "Could not parse date '" ++ text ++ "'" ++ ((reason.map (": " ++ ·)).getD "")

/-- Whether all numbers that the message shows have few enough digits to be written. -/
def Misuse.isWritable : Misuse → Bool
  | losesDigits present wanted => Text.hasNumeral present && Text.hasNumeral wanted
  | divisorNotPositive divisor => Text.hasNumeral divisor
  | _ => true

/-- What is wrong with a database file. -/
inductive DatabaseFault where
  | notADatabase
  | cannotOpen
  | noTable (name : String)
  | tooManyParameters
  | patternTooComplex
  deriving Repr, DecidableEq

def DatabaseFault.message : DatabaseFault → String
  | notADatabase => "file is not a database"
  | cannotOpen => "unable to open database file"
  | noTable name => "no such table: " ++ name
  | tooManyParameters => "too many SQL variables"
  | patternTooComplex => "LIKE or GLOB pattern too complex"

/-- What the file system refuses, and for which path. -/
inductive FileFault where
  | missing (path : String)
  | alreadyThere (path : String)
  | notADirectory (path : String)
  | isADirectory (path : String)
  | nameTooLong (path : String)
  deriving Repr, DecidableEq

def FileFault.message : FileFault → String
  | missing path => "[Errno 2] No such file or directory: " ++ Text.quoted path
  | alreadyThere path => "[Errno 17] File exists: " ++ Text.quoted path
  | notADirectory path => "[Errno 20] Not a directory: " ++ Text.quoted path
  | isADirectory path => "[Errno 21] Is a directory: " ++ Text.quoted path
  | nameTooLong path => "[Errno 36] File name too long: " ++ Text.quoted path

/-- Why an operation failed. -/
inductive Failure where
  | rejected (why : Rejection)
  | notFound (what : Entity)
  | conflict (why : Conflict)
  | hierarchy (fault : HierarchyFault)
  | misuse (why : Misuse)
  /-- Year, month and day name no calendar day. -/
  | noSuchDay
  /-- A word is none of the allowed choices. -/
  | noSuchChoice
  /-- A number or date is beyond what can be represented. -/
  | outOfRange
  /-- Decimal arithmetic has no result. -/
  | decimal (signal : Number.Decimal.Signal)
  | wrongKind
  /-- A statistic of no values was asked for. -/
  | noSample
  | malformedDocument
  /-- A numeral to be read or written has too many digits. -/
  | longNumeral
  | nestedTooDeeply
  | database (fault : DatabaseFault)
  | file (fault : FileFault)
  | noHome
  /-- A path holds a character that no path can hold. -/
  | badPath
  /-- A library fails in a way of its own. -/
  | foreign (kind : String)
  deriving Repr

namespace Failure

/-- The failure that a refusal ends in. -/
def ofRejection (why : Rejection) : Failure :=
  if why.isWritable then .rejected why else .longNumeral

/-- The failure that a misuse ends in. -/
def ofMisuse (why : Misuse) : Failure :=
  if why.isWritable then .misuse why else .longNumeral

/-- The text of a failure; some causes have none. -/
def message : Failure → String
  | rejected why => why.message
  | notFound what => what.name ++ " with passed id doesn't exist"
  | conflict why => why.message
  | hierarchy fault => fault.message
  | misuse why => why.message
  | database fault => fault.message
  | file fault => fault.message
  | _ => ""

end Failure

def Failure.ofSignal {α : Type} : Except Number.Decimal.Signal α → Except Failure α
  | .ok a => .ok a
  | .error signal => .error (.decimal signal)

end Allowance
