import Allowance.Console.Command
import Allowance.Console.Conventions
import Allowance.SpendType.Basic

/-!
# Reading command lines

The first word names a command or a group of commands, and in a group the next one names the
command. The rest is read in the form of that command.
-/

namespace Allowance.Console

inductive Group where
  | month
  | income
  | payment
  | spend
  | type
  deriving Repr, DecidableEq

/-- What the first word of a command line names. -/
inductive Entrance where
  | setUp
  | search
  | statistics
  | group (g : Group)
  deriving Repr, DecidableEq

def Entrance.named : List (String × Entrance) :=
  [("init", .setUp), ("search", .search), ("stats", .statistics), ("month", .group .month),
    ("income", .group .income), ("payment", .group .payment), ("spend", .group .spend),
    ("type", .group .type)]

def defaultIntervals : Int := 10

def searchShape : Shape where
  flags := ["--title-exactly", "--notes-exactly", "--without-type"]
  valued := ["--title", "--notes", "--after", "--before", "--min-cost", "--max-cost", "--type",
    "--sort", "--order"]
  letters := []
  arguments := 0

namespace Conventions

variable (conventions : Conventions)

/-- What a command line names, and the words after the name. -/
def enter (line : List String) : Except Detour (Entrance × List String) :=
  conventions.select Entrance.named line

def readSetUp (line : List String) : Except Detour Command := do
  let words ← conventions.words ⟨["--force"], ["--currency"], [('f', "--force")], 0⟩ line
  return .setUp (words.isGiven "--force") (words.value? "--currency")

def readSearch (line : List String) : Except Detour Command := do
  let words ← conventions.words searchShape line
  return .search {
    title := words.text "--title"
    notes := words.text "--notes"
    titleExactly := words.isGiven "--title-exactly"
    notesExactly := words.isGiven "--notes-exactly"
    after := words.value? "--after"
    before := words.value? "--before"
    minCost := words.value? "--min-cost"
    maxCost := words.value? "--max-cost"
    withoutType := words.isGiven "--without-type"
    typeIds := ← (words.values "--type").mapM conventions.number
    sortKey := ← conventions.chooseOr .date Search.SortKey.named (words.value? "--sort")
    descending := ← conventions.chooseOr false Search.orders (words.value? "--order") }

def readStatistics (line : List String) : Except Detour Command := do
  let words ← conventions.words ⟨[], ["--after", "--before", "--intervals"], [], 0⟩ line
  return .statistics (words.value? "--after") (words.value? "--before")
    ((← conventions.number? (words.value? "--intervals")).getD defaultIntervals)

/-- A command without options and arguments. -/
def readBare (command : Command) (line : List String) : Except Detour Command := do
  let _ ← conventions.words ⟨[], [], [], 0⟩ line
  return command

/-- A command that removes the entry of a number. -/
def readRemoval (remove : Int → Command) (line : List String) : Except Detour Command := do
  let words ← conventions.words ⟨[], [], [], 1⟩ line
  return remove (← conventions.number (words.argument 0))

def readShowMonth (line : List String) : Except Detour Command := do
  let words ← conventions.words ⟨[], ["--month"], [], 0⟩ line
  return .showMonth (words.value? "--month")

def readAddIncome (line : List String) : Except Detour Command := do
  let words ← conventions.words ⟨[], ["--month", "--notes"], [], 2⟩ line
  return .addIncome (words.argument 0) (words.argument 1) (words.value? "--month")
    (words.text "--notes")

def readEditIncome (line : List String) : Except Detour Command := do
  let words ← conventions.words ⟨[], ["--title", "--income", "--notes"], [], 1⟩ line
  return .editIncome (← conventions.number (words.argument 0)) (words.value? "--title")
    (words.value? "--income") (words.value? "--notes")

def readAddPayment (line : List String) : Except Detour Command := do
  let words ← conventions.words ⟨[], ["--month", "--type", "--notes"], [], 2⟩ line
  return .addPayment (words.argument 0) (words.argument 1) (words.value? "--month")
    ((← conventions.number? (words.value? "--type")).getD SpendType.noType)
    (words.text "--notes")

def readAddSpend (line : List String) : Except Detour Command := do
  let words ← conventions.words ⟨[], ["--date", "--type", "--notes"], [('d', "--date")], 2⟩ line
  return .addSpend (words.argument 0) (words.argument 1) (words.value? "--date")
    ((← conventions.number? (words.value? "--type")).getD SpendType.noType)
    (words.text "--notes")

/-- A command that edits an entry with a cost and a type. -/
def readCostEdit
    (edit : Int → Option String → Option String → Option Int → Option String → Command)
    (line : List String) : Except Detour Command := do
  let words ← conventions.words ⟨[], ["--title", "--cost", "--type", "--notes"], [], 1⟩ line
  return edit (← conventions.number (words.argument 0)) (words.value? "--title")
    (words.value? "--cost") (← conventions.number? (words.value? "--type"))
    (words.value? "--notes")

def readAddSpendType (line : List String) : Except Detour Command := do
  let words ← conventions.words ⟨[], ["--parent"], [], 1⟩ line
  return .addSpendType (words.argument 0)
    ((← conventions.number? (words.value? "--parent")).getD SpendType.noType)

def readEditSpendType (line : List String) : Except Detour Command := do
  let words ← conventions.words ⟨[], ["--name", "--parent"], [], 1⟩ line
  return .editSpendType (← conventions.number (words.argument 0)) (words.value? "--name")
    (← conventions.number? (words.value? "--parent"))

/-- The commands of a group by name, each with how the rest of its line is read. -/
def commands : Group → List (String × (List String → Except Detour Command))
  | .month =>
    [("show", conventions.readShowMonth), ("list", conventions.readBare .listMonths)]
  | .income =>
    [("add", conventions.readAddIncome), ("edit", conventions.readEditIncome),
      ("remove", conventions.readRemoval .removeIncome)]
  | .payment =>
    [("add", conventions.readAddPayment), ("edit", conventions.readCostEdit .editPayment),
      ("remove", conventions.readRemoval .removePayment)]
  | .spend =>
    [("add", conventions.readAddSpend), ("edit", conventions.readCostEdit .editSpend),
      ("remove", conventions.readRemoval .removeSpend)]
  | .type =>
    [("list", conventions.readBare .listSpendTypes), ("add", conventions.readAddSpendType),
      ("edit", conventions.readEditSpendType),
      ("remove", conventions.readRemoval .removeSpendType)]

def readGroup (group : Group) (line : List String) : Except Detour Command := do
  let (read, rest) ← conventions.select (conventions.commands group) line
  read rest

def read (entrance : Entrance) (line : List String) : Except Detour Command :=
  match entrance with
  | .setUp => conventions.readSetUp line
  | .search => conventions.readSearch line
  | .statistics => conventions.readStatistics line
  | .group g => conventions.readGroup g line

end Conventions

end Allowance.Console
