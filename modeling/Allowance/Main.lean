import Allowance.Terminal.Archive
import Allowance.Terminal.Conventions
import Allowance.Terminal.Layout
import Std.Time.Format

/-!
# The command line

Reads the configuration file and the database that a command line is about, runs it, and writes
both back. All decisions are made by `Session.run`.
-/

namespace Allowance.Terminal

open Console

/-- What a file holds: a ledger if it is a document of one. -/
def contentOf (document : String) : Content :=
  match Ledger.ofDocument? document with
  | some l => .ledger l
  | none => .text document

def documentOf : Content → String
  | .text document => document
  | .ledger l => l.document

/-- The paths from the first step of a path to the whole of it. -/
def stages (path : Path) : List Path :=
  (List.range (path.steps.length + 1)).map fun i => { path with steps := path.steps.take i }

/-- Adds what the system has at a path. -/
def observeStage (files : Files) (path : Path) : IO Files := do
  match files.place path with
  | .error _ => return files
  | .ok place =>
    try
      let document ← IO.FS.readFile path.text
      return files.put place (.file (contentOf document))
    catch
      | .noFileOrDirectory .. => return files
      | .inappropriateType .. => return files.put place .folder
      | problem => throw problem

/-- Adds what the system has at a path and on the way to it. -/
def observe (files : Files) (path : Path) : IO Files :=
  (stages path).foldlM observeStage files

/-- The document of a file, if there is one. -/
def document? (files : Files) (path : Path) : Option String :=
  (files.read path).toOption.map documentOf

/-- Makes the system's file at a path what it has become. -/
def update (before after : Files) (path : Path) : IO Unit := do
  match document? before path, document? after path with
  | some _, none => IO.FS.removeFile path.text
  | _, none => return
  | old, some new =>
    if old != some new then
      IO.FS.createDirAll path.parent.text
      IO.FS.writeFile path.text new
      IO.setAccessRights path.text { user := { read := true, write := true } }

/-- The name and the home directory of a line in the list of accounts. -/
def account? (line : String) : Option (String × String) :=
  match line.splitOn ":" with
  | [name, _, _, _, _, home, _] => some (name, home)
  | _ => none

/-- The accounts that the system lists. -/
def accounts : IO (List (String × String)) := do
  try
    return (← IO.FS.lines "/etc/passwd").toList.filterMap account?
  catch _ =>
    return []

def environment : IO Environment := do
  return {
    configHome := ← IO.getEnv "XDG_CONFIG_HOME"
    dataHome := ← IO.getEnv "XDG_DATA_HOME"
    home := (← IO.getEnv "HOME").getD "/"
    logLevel := ← IO.getEnv "BUDGETMGR_LOG_LEVEL"
    accounts := ← accounts }

def currentDay : IO Date := do
  let now ← Std.Time.PlainDate.now
  match Date.ofNumbers now.year now.month.val now.day.val with
  | .ok date => return date
  | .error _ => throw (IO.userError "the current day is not in the calendar")

/-- The files that a command line is about, and their paths. -/
def observeAll (env : Environment) : IO (Files × List Path) := do
  let configPaths := env.configPath.toOption.toList
  let start := (Path.ofText (← IO.currentDir).toString).steps
  let files ← configPaths.foldlM observe (.empty start)
  let databasePaths := (do (← Settings.load files env).databasePath env).toOption.toList
  return (← databasePaths.foldlM observe files, configPaths ++ databasePaths)

/-- Runs a command line and answers its status. -/
def run (line : List String) : IO UInt32 := do
  let env ← environment
  let (files, paths) ← observeAll env
  let today ← currentDay
  let session : Session := ⟨files, env, conventions today.year, today⟩
  let outcome := session.run line
  for display in outcome.lines do
    for text in displayLines display do
      IO.println text
  for notice in (notice? outcome.ending).toList do
    IO.eprintln notice
  for path in paths do
    update files outcome.files path
  return outcome.ending.code.toUInt32

end Allowance.Terminal

def main (line : List String) : IO UInt32 :=
  Allowance.Terminal.run line
