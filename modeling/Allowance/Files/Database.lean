import Allowance.Files.Tree

/-!
# Ledgers in files

A ledger lives in a database file. A file without content is a database without tables, and one
path stands for a database in memory, which is gone as soon as it is closed. A database is opened by
its full path, which must not be too long, and written with a journal beside it.
-/

namespace Allowance.Files

/-- The path of a database that is kept in memory only. -/
def memory : Path :=
  Path.ofText ":memory:"

/-- The longest full path of a database, in bytes. -/
def databaseLengthLimit : Nat := 504

/-- The length of the full path that a path stands for, in bytes. It is found by walking through the
names only, whatever is in the places on the way. -/
def fullLength (files : Files) (path : Path) : Nat :=
  (path.steps.foldl walk (files.origin path)).foldl
    (fun length name => length + 1 + name.utf8ByteSize) 0

/-- What is added to the name of a database for the name of its journal. -/
def journalMark : String := "-journal"

/-- Whether a database can have a journal, which takes a longer name. -/
def hasJournal (path : Path) : Bool :=
  (path.steps.getLast?.getD "" ++ journalMark).utf8ByteSize ≤ Path.nameLimit

/-- Whether a text file counts as empty. -/
def isBlankFile (s : String) : Bool :=
  s.utf8ByteSize ≤ 1

/-- The ledger in a database, which has none as long as it has not been prepared. -/
def ledger? (files : Files) (path : Path) : Except DatabaseFault (Option Ledger) :=
  if path = memory then
    .ok none
  else if databaseLengthLimit < files.fullLength path then
    .error .cannotOpen
  else
    match files.place path with
    | .error _ => .error .cannotOpen
    | .ok place =>
      match files.entry? place with
      | none => .ok none
      | some .folder => .error .cannotOpen
      | some (.file (.ledger l)) => .ok (some l)
      | some (.file (.text s)) => if isBlankFile s then .ok none else .error .notADatabase

/-- The table that is looked at first. -/
def firstTable : String := "meta"

/-- The ledger in a database that has been prepared. -/
def ledger (files : Files) (path : Path) : Except DatabaseFault Ledger := do
  match ← files.ledger? path with
  | some l => return l
  | none => throw (.noTable firstTable)

def store (files : Files) (path : Path) (l : Ledger) : Files :=
  if path = memory then
    files
  else
    match files.write path (.ledger l) with
    | .ok files => files
    | .error _ => files

/-- The files with an empty one where a database is to be, unless there is something. -/
def touch (files : Files) (path : Path) : Files :=
  match files.look path with
  | .ok _ => files
  | .error _ => (files.write path (.text "")).toOption.getD files

/-- Prepares a database for a currency, with the folders on the way to it. One that is prepared
already stays as it is, and one that can have no journal stays empty. -/
def prepare (files : Files) (path : Path) (currency : Currency) : Files × Except Failure Unit :=
  if path.holdsNul then
    (files, .error .badPath)
  else
    match files.addFolders path.parent with
    | (files, .error fault) => (files, .error (.file fault))
    | (files, .ok ()) =>
      match files.ledger? path with
      | .error fault => (files, .error (.database fault))
      | .ok (some _) => (files, .ok ())
      | .ok none =>
        if hasJournal path then (files.store path (Ledger.empty currency), .ok ())
        else (files.touch path, .error (.database .cannotOpen))

end Allowance.Files
