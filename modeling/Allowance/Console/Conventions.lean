import Allowance.Calendar.Reading
import Allowance.Data.Value

/-!
# Conventions of libraries

How command lines and dates are read and configuration files are written is left to libraries. They
are told what commands, options and arguments there are, and what to write.
-/

namespace Allowance.Console

/-- Why there is no command to run. -/
inductive Detour where
  | help
  /-- The command line is not understood. -/
  | usage
  deriving Repr, DecidableEq

/-- The form of a command line: its flags, the options that take a value, letters that stand for
either, and the number of its arguments. -/
structure Shape where
  flags : List String
  valued : List String
  letters : List (Char × String)
  arguments : Nat

/-- The words of a command line by their meaning. -/
structure Words where
  isGiven : String → Bool
  value? : String → Option String
  /-- The values of an option that may be given more than once. -/
  values : String → List String
  argument : Nat → String

structure Conventions where
  /-- Which of several named things a line selects, and what is left of the line. -/
  select {α : Type} : List (String × α) → List String → Except Detour (α × List String)
  words : Shape → List String → Except Detour Words
  number : String → Except Detour Int
  /-- Which of several named choices a word stands for. -/
  choose {α : Type} : List (String × α) → String → Except Detour α
  date : Calendar.DateReader
  writeTable : Data.Table → Except Failure String

namespace Conventions

variable (conventions : Conventions)

def number? (value : Option String) : Except Detour (Option Int) :=
  match value with
  | some word => (conventions.number word).map some
  | none => .ok none

/-- The choice that a word stands for, or a default without one. -/
def chooseOr {α : Type} (default : α) (choices : List (String × α)) (value : Option String) :
    Except Detour α :=
  match value with
  | some word => conventions.choose choices word
  | none => .ok default

end Conventions

/-- The value of an option that is empty unless it is given. -/
def Words.text (words : Words) (name : String) : String :=
  (words.value? name).getD ""

end Allowance.Console
