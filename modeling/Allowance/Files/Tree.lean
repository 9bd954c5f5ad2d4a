import Allowance.Files.Path
import Allowance.Ledger.Basic

/-!
# Folders and files

The part of the file system that the program works on. The folder where relative paths start and
everything above it exist at all times; anything else exists if it has an entry.
-/

namespace Allowance

inductive Content where
  | text (s : String)
  | ledger (l : Ledger)

inductive Entry where
  | folder
  | file (content : Content)

/-- The names on the way from the root to a place. -/
abbrev Place := List String

/-- Folders and files by their place. -/
structure Files where
  /-- Where relative paths start. -/
  start : Place
  entries : List (Place × Entry)

namespace Files

def empty (start : Place) : Files :=
  ⟨start, []⟩

def entry? (files : Files) (place : Place) : Option Entry :=
  if place.isPrefixOf files.start then some .folder else files.entries.lookup place

def put (files : Files) (place : Place) (entry : Entry) : Files :=
  { files with entries := (place, entry) :: files.entries.filter (·.1 != place) }

/-- Where a path starts. -/
def origin (files : Files) (path : Path) : Place :=
  if path.isAbsolute then [] else files.start

/-- The place one step away from the folder at a place. The root is its own parent. -/
def walk (place : Place) (step : String) : Place :=
  if step = ".." then place.dropLast else place ++ [step]

/-- The place where further steps lead from a folder. All but the last have to lead to folders. A
step that is too long for a name is noticed in the folder where it would be. -/
def follow (files : Files) (path : Path) (place : Place) : List String → Except FileFault Place
  | [] => .ok place
  | step :: rest =>
    if Path.nameLimit < step.utf8ByteSize then
      .error (.nameTooLong path.text)
    else if rest.isEmpty then
      .ok (walk place step)
    else
      match files.entry? (walk place step) with
      | some .folder => files.follow path (walk place step) rest
      | some (.file _) => .error (.notADirectory path.text)
      | none => .error (.missing path.text)

/-- The place where a path leads. Nothing needs to be there, but the folders on the way do. -/
def place (files : Files) (path : Path) : Except FileFault Place :=
  if Path.lengthLimit < path.text.utf8ByteSize then
    .error (.nameTooLong path.text)
  else
    files.follow path (files.origin path) path.steps

def look (files : Files) (path : Path) : Except FileFault Entry := do
  match files.entry? (← files.place path) with
  | some entry => return entry
  | none => throw (.missing path.text)

/-- Whether a path leads to something. A path that no system call takes leads nowhere, but one with
too long a name cannot be looked up. -/
def hasEntry (files : Files) (path : Path) : Except FileFault Bool :=
  if path.holdsNul then
    .ok false
  else
    match files.look path with
    | .ok _ => .ok true
    | .error (.nameTooLong text) => .error (.nameTooLong text)
    | .error _ => .ok false

def hasFolder (files : Files) (path : Path) : Bool :=
  match files.look path with
  | .ok .folder => true
  | _ => false

def read (files : Files) (path : Path) : Except FileFault Content := do
  match ← files.look path with
  | .file content => return content
  | .folder => throw (.isADirectory path.text)

/-- The files with the content of one of them replaced, or with a new one. -/
def write (files : Files) (path : Path) (content : Content) : Except FileFault Files := do
  let place ← files.place path
  match files.entry? place with
  | some .folder => throw (.isADirectory path.text)
  | _ => return files.put place (.file content)

def remove (files : Files) (path : Path) : Except FileFault Files := do
  match ← files.look path with
  | .file _ =>
    let place ← files.place path
    return { files with entries := files.entries.filter (·.1 != place) }
  | .folder => throw (.isADirectory path.text)

def addFolder (files : Files) (path : Path) : Except FileFault Files := do
  let place ← files.place path
  match files.entry? place with
  | some _ => throw (.alreadyThere path.text)
  | none => return files.put place .folder

/-- What is left of the fault of adding a folder: nothing if there is a folder already. -/
def keepFolder (files : Files) (path : Path) (fault : FileFault) : Except FileFault Unit :=
  if files.hasFolder path then .ok () else .error fault

/-- The files with a folder and all folders on the way to it, as far as they are missing. The ones
added before a fault stay. -/
def addFolders (files : Files) (path : Path) : Files × Except FileFault Unit :=
  match files.addFolder path with
  | .ok files => (files, .ok ())
  | .error (.missing text) =>
    if path.steps = [] then
      (files, .error (.missing text))
    else
      match files.addFolders path.parent with
      | (files, .error fault) => (files, .error fault)
      | (files, .ok ()) =>
        match files.addFolder path with
        | .ok files => (files, .ok ())
        | .error fault => (files, files.keepFolder path fault)
  | .error fault => (files, files.keepFolder path fault)
termination_by path.steps.length
decreasing_by
  have : path.steps.length ≠ 0 := by simpa using ‹¬path.steps = []›
  simp only [Path.parent, List.length_dropLast]
  omega

/-- The files after a change, or as they are if it fails. -/
def attempt (files : Files) : Except FileFault Files → Files × Except FileFault Unit
  | .ok changed => (changed, .ok ())
  | .error fault => (files, .error fault)

/-- The files with a text file and the folders on the way to it. -/
def addText (files : Files) (path : Path) (text : String) : Files × Except FileFault Unit :=
  match files.addFolders path.parent with
  | (files, .error fault) => (files, .error fault)
  | (files, .ok ()) => files.attempt (files.write path (.text text))

end Files

end Allowance
