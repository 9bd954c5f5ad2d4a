import Allowance.Console.Conventions
import Allowance.Console.Program
import Allowance.Files.Database
import Allowance.Settings

/-!
# Setting up

The command that prepares a database and a configuration file. It works on files and not on a
ledger, so what it has done up to a failure stays.
-/

namespace Allowance.Console

/-- The files as they are by now and what has been displayed. -/
structure Progress where
  files : Files
  lines : List Display

/-- Steps on files, one of which may end the command. -/
abbrev SetUp := ExceptT Ending (StateM Progress)

namespace SetUp

def say (s : String) : SetUp Unit :=
  modify fun progress => { progress with lines := progress.lines ++ [.line s] }

/-- The status and line with which a failure to set up is reported, if it is. -/
def report? : Failure → Option (Nat × String)
  | .file fault => some (1, Markup.red ("Filesystem error: " ++ fault.message))
  | why => Console.report? why

def fail {α : Type} (why : Failure) : SetUp α := do
  match report? why with
  | some (status, line) =>
    say line
    throw (.status status)
  | none => throw (.crash why)

def attempt {α : Type} : Except Failure α → SetUp α
  | .ok a => pure a
  | .error why => fail why

/-- Replaces the files by what an operation makes of them. -/
def change (operation : Files → Files × Except FileFault Unit) : SetUp Unit := do
  let (files, outcome) := operation (← get).files
  modify fun progress => { progress with files }
  attempt (outcome.mapError .file)

def hasEntry (path : Path) : SetUp Bool := do
  match (← get).files.hasEntry path with
  | .ok found => return found
  | .error fault => fail (.file fault)

def prepare (path : Path) (currency : Currency) : SetUp Unit := do
  let (files, outcome) := (← get).files.prepare path currency
  modify fun progress => { progress with files }
  attempt outcome

/-- Writes a new configuration file for a currency. If its text cannot be written, the file is
empty. -/
def configure (conventions : Conventions) (path : Path) (currency : Currency) : SetUp Unit := do
  match conventions.writeTable (Settings.newTable (some currency.code)) with
  | .ok text => change (·.addText path text)
  | .error why => do
    change (·.addText path "")
    fail why

/-- Refuses to replace a database that exists. -/
def requireAbsent (path : Path) : SetUp Unit := do
  if ← hasEntry path then
    say (Markup.red "Initialization failed:")
    say ("  Database already exists: " ++ path.text)
    say ("\n" ++ Markup.yellow "Use 'budgetmgr init --force' to overwrite")
    throw (.status 1)

/-- Prepares a database and, if it is missing or has to be replaced, the configuration file. -/
def perform (conventions : Conventions) (path configPath : Path) (currency : Currency)
    (force : Bool) : SetUp Unit := do
  if force && (← hasEntry path) then
    change fun files => files.attempt (files.remove path)
  say (Markup.cyan ("Initializing database at " ++ path.text ++ "..."))
  prepare path currency
  say (Markup.success ("Database initialized (currency: " ++ currency.code ++ ")"))
  if force || !(← hasEntry configPath) then
    say (Markup.cyan ("Creating config file at " ++ configPath.text ++ "..."))
    configure conventions configPath currency
    say (Markup.success "Config file created (permissions: 600)")
  say ("\n" ++ Markup.green "Initialization complete!")
  say (Markup.dim ("Database: " ++ path.text))
  say (Markup.dim ("Config: " ++ configPath.text))

/-- The whole command, with the currency of the settings unless one is given. -/
def setUp (conventions : Conventions) (settings : Settings) (env : Environment) (force : Bool)
    (code : Option String) : SetUp Unit := do
  let code := (Environment.given code).getD settings.currency.code
  let currency ← attempt (Currency.ofCode (Text.upper code))
  let path ← attempt (settings.databasePath env)
  let configPath ← attempt env.configPath
  if !force then
    requireAbsent path
  perform conventions path configPath currency force

end SetUp

end Allowance.Console
