import Allowance.Search.Like
import Allowance.Search.Query

/-!
# Selecting spends from a database

The statement that a query becomes: conditions and an order over the columns of stored spends, with
the searched values as parameters beside the text. `Select.text` writes the statement and
`Select.run` says what it selects, given how the database matches a text against a pattern. In
stored spends an absent note and an absent type are null, and a comparison with null does not
select.
-/

namespace Allowance.Search

/-- A stored value. -/
inductive Cell where
  | null
  | integer (i : Int)
  | text (s : String)
  deriving Repr, DecidableEq

/-- A stored spend, joined with its day and month. -/
abbrev Row := Field → Cell

def Field.column : Field → String
  | id => "spend.id"
  | year => "month.year"
  | month => "month.month"
  | day => "day.day"
  | title => "spend.title"
  | notes => "spend.notes"
  | cost => "spend.cost"
  | typeId => "spend.type_id"

/-- A value computed from a row. -/
inductive Term where
  | column (field : Field)
  /-- The text of a column in lower case, where null counts as empty. -/
  | lowered (field : Field)
  /-- Year, month and day as one number. -/
  | dateKey
  deriving Repr, DecidableEq

namespace Term

def text : Term → String
  | column field => field.column
  | lowered field => "py_lower(COALESCE(" ++ field.column ++ ", ''))"
  | dateKey => "(month.year * 10000 + month.month * 100 + day.day)"

/-- The text in lower case of a stored value; a number has none. -/
def lower : Cell → Cell
  | .text s => .text (Text.lower s)
  | .null => .text ""
  | .integer i => .integer i

/-- Year, month and day of stored numbers as one number. -/
def joinDate : Cell → Cell → Cell → Cell
  | .integer y, .integer m, .integer d => .integer (y * 10000 + m * 100 + d)
  | _, _, _ => .null

def value (row : Row) : Term → Cell
  | column field => row field
  | lowered field => lower (row field)
  | dateKey => joinDate (row .year) (row .month) (row .day)

end Term

/-- How a database matches: whether a pattern, given first, matches a text. -/
abbrev Matcher := String → String → Bool

/-- Whether a stored value matches a pattern, unless either is null. -/
def like? (fits : Matcher) : Cell → Cell → Option Bool
  | .text s, .text pattern => some (fits pattern s)
  | _, _ => none

/-- How stored values compare: null before numbers before texts, texts by code points. -/
def Cell.compare : Cell → Cell → Ordering
  | .null, .null => .eq
  | .null, _ => .lt
  | _, .null => .gt
  | .integer i, .integer j => compareOfLessAndEq i j
  | .integer _, .text _ => .lt
  | .text _, .integer _ => .gt
  | .text s, .text t => compareOfLessAndEq s t

/-- Whether one stored value is at most another, unless either is null. -/
def Cell.atMost? (a b : Cell) : Option Bool :=
  if a = .null ∨ b = .null then none else some (Cell.compare a b != .gt)

/-- Both of two conditions, of which either may be unknown. -/
def both? : Option Bool → Option Bool → Option Bool
  | some false, _ => some false
  | _, some false => some false
  | some true, some true => some true
  | _, _ => none

/-- One of two conditions, of which either may be unknown. -/
def either? : Option Bool → Option Bool → Option Bool
  | some true, _ => some true
  | _, some true => some true
  | some false, some false => some false
  | _, _ => none

/-- A condition of a statement. Its cells are parameters. -/
inductive Condition where
  | like (term : Term) (pattern : Cell)
  | between (term : Term) (low high : Cell)
  | atLeast (term : Term) (low : Cell)
  | atMost (term : Term) (high : Cell)
  | isNull (term : Term)
  | isIn (term : Term) (values : List Cell)
  deriving Repr, DecidableEq

namespace Condition

def text : Condition → String
  | like term _ => term.text ++ " LIKE ? ESCAPE '\\'"
  | between term _ _ => term.text ++ " BETWEEN ? AND ?"
  | atLeast term _ => term.text ++ " >= ?"
  | atMost term _ => term.text ++ " <= ?"
  | isNull term => term.text ++ " IS NULL"
  | isIn term values => term.text ++ " IN (" ++ ", ".intercalate (values.map fun _ => "?") ++ ")"

def parameters : Condition → List Cell
  | like _ pattern => [pattern]
  | between _ low high => [low, high]
  | atLeast _ low => [low]
  | atMost _ high => [high]
  | isNull _ => []
  | isIn _ values => values

/-- Whether the condition compares with a pattern that is too long. -/
def isTooComplex : Condition → Bool
  | like _ (.text pattern) => isLongPattern pattern
  | _ => false

/-- Whether rows that meet the condition are found by an index. -/
def isIndexed : Condition → Bool
  | isNull _ => true
  | isIn _ _ => true
  | _ => false

/-- Whether a row meets the condition; unknown where null takes part. -/
def holds? (fits : Matcher) (row : Row) : Condition → Option Bool
  | like term pattern => like? fits (term.value row) pattern
  | between term low high =>
    both? (low.atMost? (term.value row)) ((term.value row).atMost? high)
  | atLeast term low => low.atMost? (term.value row)
  | atMost term high => (term.value row).atMost? high
  | isNull term => some (term.value row == .null)
  | isIn term values =>
    if term.value row = .null then none else some (values.contains (term.value row))

end Condition

/-- Conditions of which one has to hold. A single condition may stand without brackets. -/
structure Clause where
  bracketed : Bool
  conditions : List Condition
  deriving Repr

namespace Clause

def text (clause : Clause) : String :=
  let inner := " OR ".intercalate (clause.conditions.map (·.text))
  if clause.bracketed then "(" ++ inner ++ ")" else inner

def parameters (clause : Clause) : List Cell :=
  clause.conditions.flatMap (·.parameters)

def holds? (fits : Matcher) (row : Row) (clause : Clause) : Option Bool :=
  clause.conditions.foldr (fun condition rest => either? (condition.holds? fits row) rest)
    (some false)

/-- Whether a row is known to meet the clause. -/
def isMet (fits : Matcher) (row : Row) (clause : Clause) : Bool :=
  clause.holds? fits row == some true

end Clause

/-- The most parameters that a statement may have. -/
def parameterLimit : Nat := 250000

structure Select where
  clauses : List Clause
  orderBy : List OrderBy
  deriving Repr

namespace Select

/-- What every statement selects from. -/
def source : String :=
  "SELECT spend.id AS id, month.year AS year, month.month AS month, day.day AS day, " ++
    "spend.title AS title, spend.notes AS notes, spend.cost AS cost, spend.type_id AS type_id " ++
    "FROM spends AS spend " ++
    "INNER JOIN days AS day ON day.id = spend.day_id " ++
    "INNER JOIN months AS month ON month.id = day.month_id"

def orderText (key : OrderBy) : String :=
  key.field.column ++ (if key.descending then " DESC" else " ASC")

/-- The text of a statement, with a question mark for each parameter. -/
def text (select : Select) : String :=
  source ++
    (if select.clauses.isEmpty then ""
      else " WHERE " ++ " AND ".intercalate (select.clauses.map (·.text))) ++
    " ORDER BY " ++ ", ".intercalate (select.orderBy.map orderText)

/-- The parameters in the order of their question marks. -/
def parameters (select : Select) : List Cell :=
  select.clauses.flatMap (·.parameters)

/-- Whether a row is selected: every clause is known to hold. -/
def selects (fits : Matcher) (select : Select) (row : Row) : Bool :=
  select.clauses.foldr (fun clause rest => both? (clause.holds? fits row) rest) (some true) ==
    some true

/-- Whether a row that meets the clauses one after another comes to a pattern that is too long. -/
def reachesLongPattern (fits : Matcher) (row : Row) : List Clause → Bool
  | [] => false
  | clause :: rest =>
    clause.conditions.any (·.isTooComplex) ||
      (clause.isMet fits row && reachesLongPattern fits row rest)

/-- Whether the statement cannot be run because of a row. Only rows that the indexes find are looked
at. -/
def failsAt (fits : Matcher) (select : Select) (row : Row) : Bool :=
  (select.clauses.filter (·.conditions.all (·.isIndexed))).all (·.isMet fits row) &&
    reachesLongPattern fits row select.clauses

def compareBy (a b : Row) (key : OrderBy) : Ordering :=
  let found := Cell.compare (a key.field) (b key.field)
  if key.descending then found.swap else found

def compare (select : Select) (a b : Row) : Ordering :=
  select.orderBy.foldl (fun found key => found.then (compareBy a b key)) .eq

/-- The selected items, in order, where each item has a row. -/
def run {α : Type} (fits : Matcher) (select : Select) (row : α → Row) (items : List α) : List α :=
  (items.filter (select.selects fits <| row ·)).mergeSort
    fun a b => select.compare (row a) (row b) != .gt

end Select

/-- A pattern in which all but the percent sign is taken literally. -/
def escapePattern (pattern : String) : String :=
  String.ofList <| pattern.toList.flatMap fun c =>
    if c = '\\' ∨ c = '_' then ['\\', c] else [c]

/-- The condition that a value lies within bounds of which at least one is given. -/
def boundsOf (term : Term) : Option Int → Option Int → Condition
  | some low, some high => .between term (.integer low) (.integer high)
  | some low, none => .atLeast term (.integer low)
  | none, some high => .atMost term (.integer high)
  | none, none => .atMost term .null

/-- A bound in minor units at the precision of the stored costs. -/
def boundUnits (precision : Int) : Option Money → Except Failure (Option Int)
  | some bound => (bound.minorUnits precision).map some
  | none => .ok none

/-- A filter as a clause. A cost that the precision cannot express is refused. -/
def Filter.clause (precision : Int) : Filter → Except Failure Clause
  | .like field pattern =>
    .ok ⟨false, [.like (.lowered field.field) (.text (escapePattern pattern))]⟩
  | .dates after before => .ok ⟨false, [boundsOf .dateKey after before]⟩
  | .costs low high => do
    let low ← boundUnits precision low
    let high ← boundUnits precision high
    return ⟨false, [boundsOf (.column .cost) low high]⟩
  | .types ids untyped =>
    let untypedRows := if untyped then [Condition.isNull (.column .typeId)] else []
    let typedRows := if ids.isEmpty then [] else [Condition.isIn (.column .typeId) (ids.map .integer)]
    .ok ⟨true, untypedRows ++ typedRows⟩

/-- The statement of a query for costs stored at a precision. -/
def Query.select (query : Query) (precision : Int) : Except Failure Select := do
  return ⟨← query.filters.mapM (·.clause precision), query.orderBy⟩

end Allowance.Search
