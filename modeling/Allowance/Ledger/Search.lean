import Allowance.Ledger.Basic
import Allowance.Search.Select

/-!
# Searching a ledger

A search is rendered as a statement for the precision of the ledger and run over all stored spends,
each joined with its day and month.
-/

namespace Allowance.Ledger

open Search

/-- A spend with its date, if its day and month exist. -/
def recordOf? (l : Ledger) (row : SpendRow) : Option SpendRecord := do
  let day ← Table.find? l.days row.dayId
  let month ← Table.find? l.months day.monthId
  return ⟨row.id, month.year, month.month, day.day, row.title, l.money row.cost, row.typeId,
    row.notes⟩

def records (l : Ledger) : List SpendRecord :=
  l.spends.filterMap l.recordOf?

/-- The stored values of a spend: an absent type and absent notes are null. -/
def storedRow (record : SpendRecord) : Row
  | .id => .integer record.id
  | .year => .integer record.year
  | .month => .integer record.month
  | .day => .integer record.day
  | .title => .text record.title
  | .notes => if record.notes.isEmpty then .null else .text record.notes
  | .cost => .integer record.cost.amount
  | .typeId => if record.typeId = SpendType.noType then .null else .integer record.typeId

/-- Fails for a parameter that is a number which cannot be stored. -/
def requireCell : Cell → Except Failure Unit
  | .integer i => requireStorable i
  | _ => .ok ()

/-- Fails for a statement that cannot be prepared. -/
def requirePreparable (select : Select) : Except Failure Unit := do
  if parameterLimit < select.parameters.length then
    throw (.database .tooManyParameters)
  let _ ← select.parameters.mapM requireCell

/-- The spends that a statement selects, unless it cannot be run. -/
def records? (l : Ledger) (fits : Matcher) (select : Select) :
    Except Failure (List SpendRecord) :=
  if l.records.any fun record => select.failsAt fits (storedRow record) then
    .error (.database .patternTooComplex)
  else
    .ok (select.run fits storedRow l.records)

/-- The spends that a search finds in a database that matches texts in its own way. -/
def searchBy (l : Ledger) (fits : Matcher) (criteria : Criteria) :
    Except Failure (List SpendRecord) := do
  let select ← criteria.query.select l.precision
  requirePreparable select
  l.records? fits select

def search (l : Ledger) (criteria : Criteria) : Except Failure (List SpendRecord) :=
  l.searchBy matchesLike criteria

end Allowance.Ledger
