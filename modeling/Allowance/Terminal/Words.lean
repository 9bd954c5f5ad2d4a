import Allowance.Console.Conventions
import Allowance.Terminal.WholeNumber

/-!
# The words of a command line

A command has flags, options that take a value and arguments by position. Options may stand
anywhere before a double dash, with their value in the next word or joined to them.
-/

namespace Allowance.Terminal

open Console

def helpFlag : String := "--help"

/-- Whether a word is an option; a single dash is not. -/
def isOption (word : String) : Bool :=
  word.startsWith "-" && word != "-"

/-! ## Selecting by name -/

/-- The name that a line selects, and the words after it. Only the options in front of the name
are looked at. -/
def selectName (wantsHelp : Bool) : List String → Except Detour (String × List String)
  | [] => .error (if wantsHelp then .help else .usage)
  | word :: rest =>
    if word = helpFlag then selectName true rest
    else if isOption word && word != "--" then .error .usage
    else if wantsHelp then .error .help
    else
      match if word = "--" then rest else word :: rest with
      | name :: rest => .ok (name, rest)
      | [] => .error .usage

/-- Why a line that starts with an unknown name gives no command. The name may be an option after
a double dash: then it counts as one after all, and only help can be asked for. -/
def misnamed (line : List String) : Detour :=
  match selectName false line with
  | .error .help => .help
  | _ => .usage

def select {α : Type} (named : List (String × α)) (line : List String) :
    Except Detour (α × List String) := do
  let (name, rest) ← selectName false line
  match named.lookup name with
  | some a => return (a, rest)
  | none => throw (misnamed (name :: rest))

/-! ## Options and arguments -/

/-- Splits a word at its first equals sign. -/
def splitValue (word : String) : String × Option String :=
  let cs := word.toList
  match cs.dropWhile (· != '=') with
  | _ :: value => (String.ofList (cs.takeWhile (· != '=')), some (String.ofList value))
  | [] => (word, none)

/-- What one word gives: options, and the name of an option that takes the next word. -/
abbrev Meaning := List (String × String) × Option String

def hasFlag (shape : Shape) (name : String) : Bool :=
  name == helpFlag || shape.flags.contains name

/-- The meaning of an option by its full name. -/
def named? (shape : Shape) (word : String) : Option Meaning :=
  let (name, value) := splitValue word
  if hasFlag shape name then
    if value.isNone then some ([(name, "")], none) else none
  else if shape.valued.contains name then
    match value with
    | some value => some ([(name, value)], none)
    | none => some ([], some name)
  else
    none

/-- The meaning of a word of letters. After a letter that takes a value, the rest is the value. -/
def lettered? (shape : Shape) : List Char → Option Meaning
  | [] => some ([], none)
  | c :: rest => do
    let name ← shape.letters.lookup c
    if hasFlag shape name then
      let (options, pending) ← lettered? shape rest
      return ((name, "") :: options, pending)
    else if rest.isEmpty then
      return ([], some name)
    else
      return ([(name, String.ofList rest)], none)

def meaning? (shape : Shape) (word : String) : Option Meaning :=
  if word.startsWith "--" then named? shape word else lettered? shape (word.toList.drop 1)

/-- Options in the order in which they are given, where a flag has an empty value, and
arguments. -/
structure Scanned where
  options : List (String × String)
  arguments : List String

def scan (shape : Shape) : List String → Option Scanned
  | [] => some ⟨[], []⟩
  | word :: rest =>
    if word = "--" then
      some ⟨[], rest⟩
    else if !isOption word then
      (scan shape rest).map fun scanned =>
        { scanned with arguments := word :: scanned.arguments }
    else
      match meaning? shape word, rest with
      | none, _ => none
      | some (options, none), rest =>
        (scan shape rest).map fun scanned =>
          { scanned with options := options ++ scanned.options }
      | some (_, some _), [] => none
      | some (options, some name), value :: rest =>
        (scan shape rest).map fun scanned =>
          { scanned with options := options ++ (name, value) :: scanned.options }

namespace Scanned

def isGiven (scanned : Scanned) (name : String) : Bool :=
  scanned.options.any (·.1 == name)

def values (scanned : Scanned) (name : String) : List String :=
  (scanned.options.filter (·.1 == name)).map (·.2)

/-- The last value of an option counts. -/
def words (scanned : Scanned) : Words where
  isGiven := scanned.isGiven
  value? name := (scanned.values name).getLast?
  values := scanned.values
  argument i := (scanned.arguments[i]?).getD ""

end Scanned

/-- The words of a command line with the right number of arguments. -/
def words (shape : Shape) (line : List String) : Except Detour Words :=
  match scan shape line with
  | none => .error .usage
  | some scanned =>
    if scanned.isGiven helpFlag then .error .help
    else if scanned.arguments.length = shape.arguments then .ok scanned.words
    else .error .usage

/-! ## Values -/

def number (word : String) : Except Detour Int :=
  match wholeNumber? word with
  | some i => .ok i
  | none => .error .usage

def choose {α : Type} (choices : List (String × α)) (word : String) : Except Detour α :=
  match choices.lookup word with
  | some a => .ok a
  | none => .error .usage

end Allowance.Terminal
