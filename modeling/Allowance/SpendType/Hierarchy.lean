import Allowance.Failure
import Allowance.SpendType.Basic

/-!
# The hierarchy of spend types

Parents make spend types a forest. All walks toward the root are bounded, so they end on a
malformed hierarchy as well: where it is cyclic, too deep or refers to unknown types.
-/

namespace Allowance.SpendType

/-- The greatest number of ancestors that a spend type is meant to have. -/
def maxDepth : Nat := 15

/-- Whether the walk from a type toward the root meets the subject within the given number of
types. -/
def meets (types : List SpendType) (subject : Int) : Nat → Int → Except Failure Bool
  | 0, _ => .error (.hierarchy .tooDeep)
  | steps + 1, current =>
    match parentOf? types current with
    | none => .error (.hierarchy .unknownType)
    | some parent =>
      if current = subject then .ok true
      else if parent = noType then .ok false
      else meets types subject steps parent

/-- Whether a spend type would become its own ancestor under a new parent. -/
def hasCycle (types : List SpendType) (subject parent : Int) : Except Failure Bool :=
  if parent = noType then .ok false else meets types subject maxDepth parent

/-- At most the given number of types on the walk from a type toward the root. -/
def walk (types : List SpendType) : Nat → Int → List Int
  | 0, _ => []
  | steps + 1, current =>
    if current = noType then []
    else
      match parentOf? types current with
      | none => []
      | some parent => current :: walk types steps parent

/-- Parent, grandparent and so on of a spend type, nearest first. -/
def ancestors (types : List SpendType) (id : Int) : List Int :=
  walk types maxDepth ((parentOf? types id).getD noType)

/-- The names from an ancestor down to a type, with an ellipsis where the chain is cut. -/
def nameWithin (types : List SpendType) : Nat → SpendType → String
  | 0, _ => "..."
  | steps + 1, type =>
    match find? types type.parent with
    | none => type.name
    | some parent => nameWithin types steps parent ++ " / " ++ type.name

/-- The name of a spend type after the names of its ancestors. -/
def fullName (types : List SpendType) (type : SpendType) : String :=
  nameWithin types maxDepth type

/-- The full name of a number, if a spend type has it. -/
def fullName? (types : List SpendType) (id : Int) : Option String :=
  (find? types id).map (fullName types)

/-- Every number in a list of spend types once, in ascending order. -/
def numbers (types : List SpendType) : List Int :=
  ((types.map (·.id)).eraseDups).mergeSort

/-- All spend types with their full names, by number. -/
def fullNames (types : List SpendType) : List (Int × String) :=
  (numbers types).filterMap fun id => (fullName? types id).map (id, ·)

end Allowance.SpendType
