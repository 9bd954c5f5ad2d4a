/-!
# Spend types

A spend type is a category of payments and spends. It may have a parent; the number zero stands for
no spend type at all.
-/

namespace Allowance

/-- A category with its number, its name and the number of its parent. -/
structure SpendType where
  id : Int
  name : String
  parent : Int
  deriving Repr, DecidableEq

namespace SpendType

/-- The number that stands for no spend type. -/
def noType : Int := 0

/-- The spend type of a number in a list. The last one counts if several have it. -/
def find? (types : List SpendType) (id : Int) : Option SpendType :=
  types.reverse.find? (·.id == id)

/-- The parent of a spend type in a list, if the list has that type. -/
def parentOf? (types : List SpendType) (id : Int) : Option Int :=
  (find? types id).map (·.parent)

end SpendType

end Allowance
