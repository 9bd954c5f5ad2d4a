import Allowance.Console.Program

/-!
# Plain layout

Displayed lines without their markup, and tables with their cells in columns.
-/

namespace Allowance.Terminal

open Console

def tags : List (List Char) :=
  ["red", "green", "yellow", "cyan", "dim", "bold", "bold cyan"].flatMap fun name =>
    [("[" ++ name ++ "]").toList, ("[/" ++ name ++ "]").toList]

/-- The characters without the tags among them; at most the given number is looked at. -/
def stripTags : Nat → List Char → List Char
  | 0, cs => cs
  | _ + 1, [] => []
  | count + 1, c :: rest =>
    match tags.find? (·.isPrefixOf (c :: rest)) with
    | some tag => stripTags count ((c :: rest).drop tag.length)
    | none => c :: stripTags count rest

def plainText (markup : String) : String :=
  String.ofList (stripTags markup.length markup.toList)

def padded (width : Nat) (s : String) : String :=
  s ++ String.ofList (List.replicate (width - s.length) ' ')

def columnWidths : List (List String) → List Nat
  | [] => []
  | row :: rows =>
    let widths := columnWidths rows
    (List.range (max row.length widths.length)).map fun i =>
      max ((row[i]?).getD "").length ((widths[i]?).getD 0)

def rowLine (widths : List Nat) (row : List String) : String :=
  "  ".intercalate (row.zip widths |>.map fun (cell, width) => padded width cell)

/-- The lines of a table: title, headers and rows. -/
def gridLines (g : Grid) : List String :=
  let rows := (g.columns :: g.rows).map (·.map plainText)
  plainText g.title :: rows.map (rowLine (columnWidths rows))

def displayLines : Display → List String
  | .line markup => [plainText markup]
  | .grid g => gridLines g

/-- What is said about the end of a command besides what it displayed. -/
def notice? : Ending → Option String
  | .status _ => none
  | .usage => some "Usage: budgetmgr COMMAND [OPTION]... [ARGUMENT]..."
  | .crash why => some ("The command failed. " ++ why.message)

end Allowance.Terminal
