import Allowance.Calendar.Date
import Allowance.Month.Basic
import Allowance.Search.Pattern
import Allowance.Text.Case

/-!
# Searching spends

A search is described by criteria that a user fills in. They become a query: a conjunction of
filters and an order, which can be applied to spends in memory or rendered for a database.
-/

namespace Allowance.Search

/-- What the found spends are ordered by. -/
inductive SortKey where
  | date
  | title
  | cost
  deriving Repr, DecidableEq

def SortKey.named : List (String × SortKey) :=
  [("date", .date), ("title", .title), ("cost", .cost)]

/-- Whether an order is descending, by its name. -/
def orders : List (String × Bool) :=
  [("asc", false), ("desc", true)]

/-- What a user searches for. An empty text, a missing bound, a zero amount and an empty list of
types set no condition. -/
structure Criteria where
  title : String
  notes : String
  titleExactly : Bool
  notesExactly : Bool
  after : Option Date
  before : Option Date
  minCost : Option Money
  maxCost : Option Money
  withoutType : Bool
  typeIds : List Int
  sortKey : SortKey
  descending : Bool
  deriving Repr

/-- Criteria that every spend meets, in the order of dates. -/
def Criteria.all : Criteria where
  title := ""
  notes := ""
  titleExactly := false
  notesExactly := false
  after := none
  before := none
  minCost := none
  maxCost := none
  withoutType := false
  typeIds := []
  sortKey := .date
  descending := false

/-- The fields of a spend that a query refers to. -/
inductive Field where
  | id
  | year
  | month
  | day
  | title
  | notes
  | cost
  | typeId
  deriving Repr, DecidableEq

def Field.name : Field → String
  | id => "id"
  | year => "year"
  | month => "month"
  | day => "day"
  | title => "title"
  | notes => "notes"
  | cost => "cost"
  | typeId => "type_id"

inductive TextField where
  | title
  | notes
  deriving Repr, DecidableEq

def TextField.field : TextField → Field
  | title => .title
  | notes => .notes

def TextField.read (row : SpendRecord) : TextField → String
  | title => row.title
  | notes => row.notes

inductive Filter where
  /-- The text in lower case matches a pattern. -/
  | like (field : TextField) (pattern : String)
  /-- The date key lies within bounds, both included; a missing bound is open. -/
  | dates (after before : Option Int)
  /-- The cost lies within bounds, both included; a missing bound is open. -/
  | costs (low high : Option Money)
  /-- The type is one of the given ones or, if wanted, there is no type. -/
  | types (ids : List Int) (untyped : Bool)
  deriving Repr

def Filter.holds (row : SpendRecord) : Filter → Bool
  | like field pattern => matchesPattern pattern (Text.lower (field.read row))
  | dates after before =>
    after.all (· ≤ row.dateKey) && before.all (row.dateKey ≤ ·)
  | costs low high =>
    low.all (fun bound => !row.cost.less bound) && high.all (fun bound => !bound.less row.cost)
  | types ids untyped =>
    (untyped && row.typeId == SpendType.noType) ||
      (row.typeId != SpendType.noType && ids.contains row.typeId)

/-- A field to order by. -/
structure OrderBy where
  field : Field
  descending : Bool
  deriving Repr, DecidableEq

def Field.compare (a b : SpendRecord) : Field → Ordering
  | id => compareOfLessAndEq a.id b.id
  | year => compareOfLessAndEq a.year b.year
  | month => compareOfLessAndEq a.month b.month
  | day => compareOfLessAndEq a.day b.day
  | title => compareOfLessAndEq a.title b.title
  | notes => compareOfLessAndEq a.notes b.notes
  | cost => if a.cost.same b.cost then .eq else if a.cost.less b.cost then .lt else .gt
  | typeId => compareOfLessAndEq a.typeId b.typeId

/-- How two spends compare under one key. -/
def OrderBy.compare (a b : SpendRecord) (key : OrderBy) : Ordering :=
  if key.descending then (key.field.compare a b).swap else key.field.compare a b

/-- Filters that all have to hold, and the keys to order by, of which an earlier one decides. -/
structure Query where
  filters : List Filter
  orderBy : List OrderBy
  deriving Repr

namespace Query

def accepts (query : Query) (row : SpendRecord) : Bool :=
  query.filters.all (·.holds row)

/-- How two spends compare: by the first key in which they differ. -/
def compare (query : Query) (a b : SpendRecord) : Ordering :=
  query.orderBy.foldl (fun found key => found.then (key.compare a b)) .eq

/-- The spends that meet all conditions, in order. -/
def apply (query : Query) (rows : List SpendRecord) : List SpendRecord :=
  (rows.filter query.accepts).mergeSort fun a b => query.compare a b != .gt

end Query

def textFilter (field : TextField) (exactly : Bool) (text : String) : Option Filter :=
  if text.isEmpty then none else some (.like field (patternOf exactly (Text.lower text)))

def dateFilter (after before : Option Date) : Option Filter :=
  if after.isNone && before.isNone then none
  else some (.dates (after.map (·.key)) (before.map (·.key)))

/-- The condition on the cost, if a bound other than zero is given. -/
def costFilter (low high : Option Money) : Option Filter :=
  let low := low.filter (!·.isZero)
  let high := high.filter (!·.isZero)
  if low.isNone && high.isNone then none else some (.costs low high)

/-- The condition on the type: no type, or one of those given, among which zero is no type. -/
def typeFilter (withoutType : Bool) (ids : List Int) : Option Filter :=
  if withoutType then some (.types [] true)
  else if ids.isEmpty then none
  else
    some (.types (ids.filter (· != SpendType.noType)).eraseDups (ids.contains SpendType.noType))

def SortKey.fields : SortKey → List Field
  | date => [.year, .month, .day]
  | title => [.title]
  | cost => [.cost]

/-- The query of a search. Its last key is always the ascending number of the spend. -/
def Criteria.query (criteria : Criteria) : Query where
  filters :=
    [textFilter .title criteria.titleExactly criteria.title,
      textFilter .notes criteria.notesExactly criteria.notes,
      dateFilter criteria.after criteria.before,
      costFilter criteria.minCost criteria.maxCost,
      typeFilter criteria.withoutType criteria.typeIds].filterMap fun filter => filter
  orderBy :=
    criteria.sortKey.fields.map (⟨·, criteria.descending⟩) ++ [⟨.id, false⟩]

end Allowance.Search
