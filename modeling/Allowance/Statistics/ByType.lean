import Allowance.Money.Reading
import Allowance.Month.Basic
import Allowance.Number.Decimal.Key
import Allowance.SpendType.Hierarchy

/-!
# Spending by type

The amount spent with each spend type and its descendants, as a tree: every type stands below its
parent, and siblings are ordered by amount.
-/

namespace Allowance.Statistics

/-- The name under which spends without a known type are reported. -/
def untypedName : String := "No Type"

/-- An entry of the report with its depth in the tree. -/
structure TypeSpent where
  typeId : Int
  name : String
  spent : Money
  depth : Nat
  deriving Repr, DecidableEq

/-- Sums by number, in the order in which the numbers first came up. -/
abbrev Sums := List (Int × Money)

def Sums.add (precision : Nat) (cost : Money) (sums : Sums) (id : Int) : Sums :=
  if sums.any (·.1 == id) then
    sums.map fun entry => if entry.1 == id then (id, entry.2 + cost) else entry
  else
    sums ++ [(id, Money.zero precision + cost)]

/-- The types that a spend counts for: its own, unless it is unknown, and all ancestors. -/
def chargedTypes (types : List SpendType) (row : SpendRecord) : List Int :=
  if (SpendType.find? types row.typeId).isNone || row.typeId == SpendType.noType then
    [SpendType.noType]
  else
    row.typeId :: SpendType.ancestors types row.typeId

/-- The sums of all types that come out other than zero. -/
def typeSums (types : List SpendType) (precision : Nat) (rows : List SpendRecord) : Sums :=
  let sums : Sums := rows.foldl
    (fun sums row => (chargedTypes types row).foldl (Sums.add precision row.cost) sums) []
  sums.filter (!·.2.isZero)

/-- The type under which a type is reported: its parent, or the root if the parent has no sum. -/
def reportedParent (types : List SpendType) (sums : Sums) (id : Int) : Int :=
  let parent := (SpendType.parentOf? types id).getD SpendType.noType
  if sums.any (·.1 == parent) then parent else SpendType.noType

/-- The types that are reported directly below a type. -/
def reportedChildren (types : List SpendType) (sums : Sums) (parent : Int) : Sums :=
  sums.filter fun entry =>
    entry.1 != SpendType.noType && reportedParent types sums entry.1 == parent

/-- Sums in descending order, equal ones by number. Their order is that of decimals of limited
precision. -/
def bySpent (sums : Sums) : Except Failure Sums := do
  let keyed ← sums.mapM fun entry => do return (← entry.2.toDecimal, entry)
  let precedes (a b : Number.Decimal × Int × Money) : Bool :=
    b.1.less a.1 || (!a.1.less b.1 && a.2.1 ≤ b.2.1)
  return (keyed.mergeSort precedes).map (·.2)

/-- The entries for some types and for all types below them, down to a bounded depth. -/
def entriesFor (types : List SpendType) (sums : Sums) :
    Nat → Nat → Sums → Except Failure (List TypeSpent)
  | 0, _, _ => .ok []
  | levels + 1, depth, siblings => do
    let sorted ← bySpent siblings
    let parts ← sorted.mapM fun (id, spent) => do
      if id = SpendType.noType then
        return [⟨id, untypedName, spent, depth⟩]
      else
        let name := (SpendType.fullName? types id).getD untypedName
        let below ← entriesFor types sums levels (depth + 1) (reportedChildren types sums id)
        return ⟨id, name, spent, depth⟩ :: below
    return parts.flatten

/-- The amounts spent with every type and its descendants, in the order of the tree. No path in it
is longer than the list of sums. -/
def spentByType (types : List SpendType) (rows : List SpendRecord) (precision : Int) :
    Except Failure (List TypeSpent) := do
  if !rows.isEmpty then
    let _ ← Money.make 0 precision
  let sums := typeSums types precision.toNat rows
  let roots := reportedChildren types sums SpendType.noType ++
    sums.filter (·.1 == SpendType.noType)
  entriesFor types sums (sums.length + 1) 0 roots

end Allowance.Statistics
