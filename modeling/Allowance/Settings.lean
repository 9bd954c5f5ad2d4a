import Allowance.Change
import Allowance.Currency
import Allowance.Environment
import Allowance.Files.Tree
import Allowance.LogLevel
import Allowance.Toml.Reader

/-!
# Settings

What the program takes from the configuration file. A file that does not exist means defaults, and
the environment overrides the log level of the file.
-/

namespace Allowance

structure Settings where
  currency : Currency
  policy : CostPolicy
  logLevel : LogLevel
  database : Option Path
  deriving Repr

namespace Settings

/-- The configuration for a currency with defaults for the rest. -/
def template (currency : String) : Data.Table :=
  [("currency", .text currency), ("spend_cost_policy", .text CostPolicy.any.name),
    ("log_level", .text LogLevel.warning.name)]

def defaults : Data.Table :=
  template Currency.gbp.code

/-- A value of a configuration, or else its default. -/
def valueOf (config : Data.Table) (key : String) : Data.Value :=
  (config.lookup key).getD ((defaults.lookup key).getD .null)

/-- A value of a configuration as text, unless it has too many digits. -/
def plainOf (config : Data.Table) (key : String) : Except Failure String :=
  let value := valueOf config key
  if value.hasLongNumeral then .error .longNumeral else .ok value.plain

def currencyOf (config : Data.Table) : Except Failure Currency := do
  Currency.ofCode (Text.upper (← plainOf config "currency"))

def policyOf (config : Data.Table) : Except Failure CostPolicy :=
  match valueOf config "spend_cost_policy" with
  | .text name =>
    match CostPolicy.ofName? name with
    | some policy => .ok policy
    | none => .error (.rejected (.unknownPolicy (.text name)))
  | value => .error (.ofRejection (.unknownPolicy value))

def logLevelOf (config : Data.Table) (env : Environment) : Except Failure LogLevel := do
  let name ← match Environment.given env.logLevel with
    | some name => pure name
    | none => plainOf config "log_level"
  match LogLevel.ofName? (Text.upper name) with
  | some level => return level
  | none => throw (.rejected (.unknownLogLevel (Text.upper name)))

def databaseOf (config : Data.Table) (env : Environment) : Except Failure (Option Path) :=
  let value := (config.lookup "db_path").getD .null
  if value.isVoid then
    .ok none
  else
    match value with
    | .text s => (env.expand (Path.ofText s)).map some
    | _ => .error .wrongKind

def ofTable (config : Data.Table) (env : Environment) : Except Failure Settings := do
  let currency ← currencyOf config
  let policy ← policyOf config
  let logLevel ← logLevelOf config env
  return ⟨currency, policy, logLevel, ← databaseOf config env⟩

/-- The table that a configuration text writes. -/
def readTable (text : String) : Except Failure Data.Table :=
  match Toml.read text with
  | .ok config => .ok config
  | .error .malformed => .error .malformedDocument
  | .error .longNumeral => .error .longNumeral
  | .error .tooDeep => .error .nestedTooDeeply

/-- What a new configuration file says. A currency that is not given is the default one. -/
def newTable (currency : Option String) : Data.Table :=
  match Environment.given currency with
  | some code => template (Text.upper code)
  | none => defaults

/-- The table in a configuration file, empty if there is no such file. -/
def tableAt (files : Files) (path : Path) : Except Failure Data.Table :=
  match files.read path with
  | .ok (.text s) => readTable s
  | .ok (.ledger _) => .error .malformedDocument
  | .error (.missing _) => .ok []
  | .error fault => .error (.file fault)

/-- The settings that the configuration file and the environment give. -/
def load (files : Files) (env : Environment) : Except Failure Settings := do
  ofTable (← tableAt files (← env.configPath)) env

/-- Where the database is. -/
def databasePath (settings : Settings) (env : Environment) : Except Failure Path :=
  match settings.database with
  | some path => .ok path
  | none => env.databasePath

end Settings

end Allowance
