import Allowance.Toml.Scanner
import Allowance.Text.Quoted

/-!
# Writing TOML

A table is written with its plain values first, one per line, and its tables after them under
headers of their own. An array of tables is written inline as long as each of them fits on a line.
Nothing stands for an absent value, so a table that holds one cannot be written.
-/

namespace Allowance.Terminal

open Data Toml

/-- The longest line of an item that is written inline. -/
def lineLimit : Nat := 100

/-- The blanks in front of an item at a depth of nesting. -/
def indentation (level : Nat) : String :=
  String.ofList (List.replicate (4 * level) ' ')

/-- One character as it stands in double quotes. -/
def escapedChar (c : Char) : String :=
  match c with
  | '\x08' => "\\b"
  | '\n' => "\\n"
  | '\x0c' => "\\f"
  | '\r' => "\\r"
  | '"' => "\\\""
  | '\\' => "\\\\"
  | c => if isControl c then "\\u" ++ Text.hexPadded 4 c.toNat else c.toString

def quotedText (s : String) : String :=
  "\"" ++ String.join (s.toList.map escapedChar) ++ "\""

/-- A key: bare if its characters allow it, otherwise in double quotes. -/
def keyText (key : String) : String :=
  if !key.isEmpty && key.toList.all isBareKey then key else quotedText key

mutual

/-- A value within a line or, for an array, over several lines. -/
def inline? (level : Nat) : Value → Option String
  | .null => none
  | .boolean b => some (if b then "true" else "false")
  | .text s => some (quotedText s)
  | .list [] => some "[]"
  | .list (item :: items) => do
    return "[\n" ++ ",\n".intercalate (← itemTexts? (level + 1) (item :: items)) ++ ",\n" ++
      indentation level ++ "]"
  | .table [] => some "\x7b\x7d"
  | .table (entry :: entries) => do
    return "\x7b " ++ ", ".intercalate (← entryTexts? (entry :: entries)) ++ " \x7d"
  | value => some value.plain

/-- The items of an array, indented. -/
def itemTexts? (level : Nat) : List Value → Option (List String)
  | [] => some []
  | item :: items => do
    return (indentation level ++ (← inline? level item)) :: (← itemTexts? level items)

def entryTexts? : List (String × Value) → Option (List String)
  | [] => some []
  | (key, value) :: entries => do
    return (keyText key ++ " = " ++ (← inline? 0 value)) :: (← entryTexts? entries)

end

/-- Whether a value may be an item of an array that is written inline. -/
def fitsInline (value : Value) : Bool :=
  match inline? 0 value with
  | some s => (indentation 1 ++ s ++ ",").length ≤ lineLimit && !s.toList.contains '\n'
  | none => true

def isTable : Value → Bool
  | .table _ => true
  | _ => false

/-- Whether the items of an array are written as tables with headers. -/
def needHeaders (items : List Value) : Bool :=
  !items.isEmpty && items.all isTable && !items.all fitsInline

/-- Whether a value is written under headers of its own. -/
def isSection : Value → Bool
  | .table _ => true
  | .list items => needHeaders items
  | _ => false

/-- The name of a table within another. -/
def nameWithin (name key : String) : String :=
  if name.isEmpty then keyText key else name ++ "." ++ keyText key

/-- The header of a named table, or of an item of an array of tables. -/
def headerText (name : String) (isItem : Bool) : String :=
  if isItem then "[[" ++ name ++ "]]\n" else "[" ++ name ++ "]\n"

/-- The entries of a table that are written as lines of their own. -/
def lineEntries (entries : Table) : Table :=
  entries.filter fun entry => !isSection entry.2

/-- A table: its header if it needs one, its lines, and then the tables in it. -/
def sectionText (name : String) (isItem : Bool) (lines sections : List String) : String :=
  let header :=
    if isItem || (!name.isEmpty && (!lines.isEmpty || sections.isEmpty)) then
      [headerText name isItem]
    else []
  let head := header ++ lines.map (· ++ "\n")
  "\n".intercalate ((if head.isEmpty then [] else [String.join head]) ++ sections)

mutual

/-- What a value of a name gives under headers: a section for a table, one for each item of an
array of tables, and nothing for other values. -/
def sections? (name : String) (isItem : Bool) : Value → Option (List String)
  | .table entries => do
    let lines ← entryTexts? (lineEntries entries)
    return [sectionText name isItem lines (← entrySections? name entries)]
  | .list items => if needHeaders items then itemSections? name items else some []
  | _ => some []

/-- The sections in a table of a name. -/
def entrySections? (name : String) : List (String × Value) → Option (List String)
  | [] => some []
  | (key, value) :: entries => do
    return (← sections? (nameWithin name key) false value) ++ (← entrySections? name entries)

/-- The sections of an array of tables. -/
def itemSections? (name : String) : List Value → Option (List String)
  | [] => some []
  | item :: items => do
    return (← sections? name true item) ++ (← itemSections? name items)

end

/-- The document that writes a table, if the table can be written. -/
def writeToml? (entries : Table) : Option String := do
  return sectionText "" false (← entryTexts? (lineEntries entries)) (← entrySections? "" entries)

end Allowance.Terminal
