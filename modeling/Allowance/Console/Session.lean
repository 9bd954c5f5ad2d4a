import Allowance.Console.Reading
import Allowance.Console.SetUp
import Allowance.Console.Summary

/-!
# Sessions

One command line after another, each with the files that the ones before it left. The settings are
loaded as soon as it is known what the line names, before the rest of it is looked at.
-/

namespace Allowance.Console

/-- The day on which a command is run, and how dates that are typed on it are read. -/
structure Occasion where
  today : Date
  reader : Calendar.DateReader

/-- The files with the environment, the conventions and the day on which commands are run. -/
structure Session where
  files : Files
  environment : Environment
  conventions : Conventions
  today : Date

structure Outcome where
  files : Files
  lines : List Display
  ending : Ending

/-- What a command does with an open ledger. It starts by asking for the currency. -/
def body (command : Command) (policy : CostPolicy) (occasion : Occasion) : Program Unit := do
  let ctx : Context := ⟨policy, ← Program.request .currency, occasion.today⟩
  match command with
  | .setUp _ _ => pure ()
  | .showMonth month => showMonth ctx month
  | .listMonths => listMonths ctx
  | .addIncome title amount month notes => addIncome ctx title amount month notes
  | .editIncome id title amount notes => editIncome ctx id title amount notes
  | .removeIncome id => removeIncome id
  | .addPayment title cost month typeId notes => addPayment ctx title cost month typeId notes
  | .editPayment id title cost typeId notes => editPayment ctx id title cost typeId notes
  | .removePayment id => removePayment id
  | .addSpend title cost date typeId notes =>
    addSpend ctx occasion.reader title cost date typeId notes
  | .editSpend id title cost typeId notes => editSpend ctx id title cost typeId notes
  | .removeSpend id => removeSpend id
  | .listSpendTypes => listSpendTypes
  | .addSpendType name parent => addSpendType name parent
  | .editSpendType id name parent => editSpendType id name parent
  | .removeSpendType id => removeSpendType id
  | .search options => search ctx occasion.reader options
  | .statistics after before intervals => statistics ctx occasion.reader after before intervals

/-- What is wrong with a command before a ledger is opened. -/
def objection? : Command → Option String
  | .statistics _ _ intervals =>
    if intervals ≤ 0 then some (Markup.red "Number of intervals must be positive") else none
  | _ => none

namespace Session

def occasion (s : Session) : Occasion :=
  ⟨s.today, s.conventions.date⟩

/-- An outcome that leaves the files as they are. -/
def stop (s : Session) (lines : List Display) (ending : Ending) : Outcome :=
  ⟨s.files, lines, ending⟩

/-- The outcome of a failure that is reported as one of requests are. -/
def failed (s : Session) (why : Failure) : Outcome :=
  match report? why with
  | some (status, line) => s.stop [.line line] (.status status)
  | none => s.stop [] (.crash why)

def detour (s : Session) : Detour → Outcome
  | .help => s.stop [] (.status 0)
  | .usage => s.stop [] .usage

def misconfigured (s : Session) : Failure → Outcome
  | .rejected why =>
    s.stop [.line (Markup.red ("Invalid configuration: " ++ why.message))] (.status 1)
  | why => s.stop [] (.crash why)

/-- Runs a command on the ledger of the configured database. -/
def runBody (s : Session) (settings : Settings) (command : Command) : Outcome :=
  match settings.databasePath s.environment with
  | .error why => s.failed why
  | .ok path =>
    match s.files.hasEntry path with
    | .error fault => s.failed (.file fault)
    | .ok false =>
      s.stop [.line (Markup.red "Database not found. Run 'budgetmgr init' first.")] (.status 1)
    | .ok true =>
      match s.files.ledger path with
      | .error fault => s.failed (.database fault)
      | .ok l =>
        let run := (body command settings.policy s.occasion).run l
        ⟨s.files.store path run.ledger, run.lines, run.ending⟩

def runSetUp (s : Session) (settings : Settings) (force : Bool) (currency : Option String) :
    Outcome :=
  let (result, progress) :=
    (SetUp.setUp s.conventions settings s.environment force currency).run.run ⟨s.files, []⟩
  match result with
  | .ok () => ⟨progress.files, progress.lines, .status 0⟩
  | .error ending => ⟨progress.files, progress.lines, ending⟩

def runCommand (s : Session) (settings : Settings) (command : Command) : Outcome :=
  match command, objection? command with
  | .setUp force currency, _ => s.runSetUp settings force currency
  | _, some objection => s.stop [.line objection] (.status 1)
  | command, none => s.runBody settings command

def run (s : Session) (line : List String) : Outcome :=
  match s.conventions.enter line with
  | .error why => s.detour why
  | .ok (entrance, rest) =>
    match Settings.load s.files s.environment with
    | .error why => s.misconfigured why
    | .ok settings =>
      match s.conventions.read entrance rest with
      | .error why => s.detour why
      | .ok command => s.runCommand settings command

/-- The session that goes on with the files of an outcome. -/
def leaving (s : Session) (outcome : Outcome) : Session :=
  { s with files := outcome.files }

def afterAll (s : Session) : List (List String) → Session
  | [] => s
  | line :: rest => (s.leaving (s.run line)).afterAll rest

end Session

end Allowance.Console
