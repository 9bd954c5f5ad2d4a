/-!
# Tables of numbered rows

A table is a list of rows in ascending order of their numbers. Rows are found, changed and removed
by number.
-/

namespace Allowance

class Numbered (α : Type) where
  number : α → Int

namespace Table

variable {α : Type} [Numbered α]

def find? (rows : List α) (id : Int) : Option α :=
  rows.find? (Numbered.number · == id)

def modify (rows : List α) (id : Int) (change : α → α) : List α :=
  rows.map fun row => if Numbered.number row = id then change row else row

def erase (rows : List α) (id : Int) : List α :=
  rows.filter (Numbered.number · != id)

end Table

end Allowance
