/-!
# What commands display

A command displays lines with markup and tables of cells. How they are laid out is not decided
here.
-/

namespace Allowance.Console

/-- A table with a title, the headers of its columns and its rows. -/
structure Grid where
  title : String
  columns : List String
  rows : List (List String)
  deriving Repr, DecidableEq

inductive Display where
  | line (markup : String)
  | grid (g : Grid)
  deriving Repr, DecidableEq

namespace Markup

def red (s : String) : String :=
  "[red]" ++ s ++ "[/red]"

def green (s : String) : String :=
  "[green]" ++ s ++ "[/green]"

def yellow (s : String) : String :=
  "[yellow]" ++ s ++ "[/yellow]"

def cyan (s : String) : String :=
  "[cyan]" ++ s ++ "[/cyan]"

def dim (s : String) : String :=
  "[dim]" ++ s ++ "[/dim]"

def bold (s : String) : String :=
  "[bold]" ++ s ++ "[/bold]"

def heading (s : String) : String :=
  "[bold cyan]" ++ s ++ "[/bold cyan]"

def success (s : String) : String :=
  green "✓" ++ " " ++ s

/-- The cell that stands for nothing. -/
def nothing : String :=
  dim "-"

end Markup

end Allowance.Console
