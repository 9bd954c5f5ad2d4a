import Allowance.Text.Pieces

/-!
# Paths

A path is kept in normal form: repeated slashes and steps that stay in place are dropped, steps to
the parent are kept. Two slashes at the start, and no more than two, differ from one.
-/

namespace Allowance

/-- A path as where it starts and the steps from there; a relative path starts with nothing. -/
structure Path where
  root : String
  steps : List String
  deriving Repr, DecidableEq

namespace Path

/-- The slashes at the start of a path that count. -/
def rootOf : List Char → String
  | '/' :: '/' :: '/' :: _ => "/"
  | '/' :: '/' :: _ => "//"
  | '/' :: _ => "/"
  | _ => ""

def ofText (s : String) : Path :=
  let steps := (Text.pieces (· = '/') s.toList).map String.ofList
  ⟨rootOf s.toList, steps.filter fun step => step != "" && step != "."⟩

/-- The text of a path; a dot stands for the place where relative paths start. -/
def text (p : Path) : String :=
  if p.root.isEmpty && p.steps.isEmpty then "." else p.root ++ "/".intercalate p.steps

def extend (p : Path) (steps : List String) : Path :=
  { p with steps := p.steps ++ steps }

def parent (p : Path) : Path :=
  { p with steps := p.steps.dropLast }

def isAbsolute (p : Path) : Bool :=
  !p.root.isEmpty

/-- Whether a path holds the character that ends a text in the system's interface. -/
def holdsNul (p : Path) : Bool :=
  p.steps.any (·.toList.contains '\x00')

/-- The longest name of a file or folder, in bytes. -/
def nameLimit : Nat := 255

/-- The longest path, in bytes. -/
def lengthLimit : Nat := 4095

end Path

end Allowance
