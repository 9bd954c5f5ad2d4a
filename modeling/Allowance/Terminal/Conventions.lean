import Allowance.Console.Session
import Allowance.Terminal.DateReader
import Allowance.Terminal.TomlWriter
import Allowance.Terminal.Words

/-!
# The conventions of a terminal

How the program at a terminal reads command lines and dates and writes its configuration file.
-/

namespace Allowance.Terminal

open Console

def writeTable (table : Data.Table) : Except Failure String :=
  match writeToml? table with
  | some text => .ok text
  | none => .error .wrongKind

/-- The conventions in a year, around which years without a century lie. -/
def conventions (present : Nat) : Conventions where
  select := select
  words := words
  number := number
  choose := choose
  date := dateReader present
  writeTable := writeTable

end Allowance.Terminal
