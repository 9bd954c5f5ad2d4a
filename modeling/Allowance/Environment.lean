import Allowance.Failure
import Allowance.Files.Path

/-!
# The environment

What the program finds around it: the variables it looks at and the accounts of the system. A path
may start in a home directory: that of the user behind a plain tilde, that of an account behind a
tilde with its name.
-/

namespace Allowance

/-- An empty variable counts as not given. -/
structure Environment where
  configHome : Option String
  dataHome : Option String
  /-- The home directory of the user. -/
  home : String
  logLevel : Option String
  /-- The home directories of accounts by name. -/
  accounts : List (String × String)
  deriving Repr

namespace Path

/-- The home directory of a text: slashes at its end do not count, and without them an empty text
is the root. -/
def homeOf (text : String) : Path :=
  let home := (text.toList.reverse.dropWhile (· = '/')).reverse
  if home.isEmpty then ofText "/" else ofText (String.ofList home)

/-- The account that a path names if it starts in a home directory; the user's own has no name. -/
def account? (p : Path) : Option String :=
  match p.isAbsolute, p.steps with
  | false, step :: _ => if step.startsWith "~" then some (step.drop 1).toString else none
  | _, _ => none

end Path

namespace Environment

def given (value : Option String) : Option String :=
  value.filter (· != "")

/-- The text of the home directory of an account. The user's must not start with a tilde itself. -/
def homeText (env : Environment) (account : String) : Except Failure String :=
  if account = "" then
    if env.home.startsWith "~" then .error .noHome else .ok env.home
  else if account.toList.contains '\x00' then
    .error .badPath
  else
    match env.accounts.lookup account with
    | some home => .ok home
    | none => .error .noHome

/-- The path with the home directory in place of a tilde at its start. -/
def expand (env : Environment) (p : Path) : Except Failure Path :=
  match p.account? with
  | none => .ok p
  | some account => do
    return (Path.homeOf (← env.homeText account)).extend (p.steps.drop 1)

/-- The folder that a value names, or else one in the home directory. -/
def folder (env : Environment) (value : Option String) (steps : List String) :
    Except Failure Path :=
  match given value with
  | some text => .ok (Path.ofText text)
  | none => (env.expand (Path.ofText "~")).map (·.extend steps)

def configPath (env : Environment) : Except Failure Path := do
  return (← env.folder env.configHome [".config"]).extend ["budgetmgr", "config.toml"]

/-- Where the database is unless the configuration says otherwise. -/
def databasePath (env : Environment) : Except Failure Path := do
  return (← env.folder env.dataHome [".local", "share"]).extend ["budgetmgr", "budgetmgr.db"]

end Environment

end Allowance
