import Mathlib.Data.Finset.Basic
import Mathlib.Data.Finset.Card
import Mathlib.Data.List.Forall2
import Allowance.Proofs.Outcome
import Allowance.Proofs.Search.Criteria
import Allowance.Search.Select

/-!
# The text of a statement

What a user searches for never gets into the text of a statement, but into its parameters alone. The
text shows which conditions are set, how many types are asked for and what the order is; it has one
question mark for each parameter, at the place of the condition that the parameter belongs to.
-/

namespace Allowance.Search

open Outcome

/-! ## Question marks -/

/-- The sign for a parameter. -/
def placeholder : Char := '?'

/-- A text arises from another by putting texts, in their order, in the places of its question
marks, of which there are as many. -/
inductive FillsChars : List Char → List String → List Char → Prop where
  | nil : FillsChars [] [] []
  | keep {text filled : List Char} {values : List String} {c : Char} (hc : c ≠ placeholder)
      (h : FillsChars text values filled) : FillsChars (c :: text) values (c :: filled)
  | put {text filled : List Char} {values : List String} (value : String)
      (h : FillsChars text values filled) :
      FillsChars (placeholder :: text) (value :: values) (value.toList ++ filled)

def Fills (text : String) (values : List String) (filled : String) : Prop :=
  FillsChars text.toList values filled.toList

theorem FillsChars.append {text more filled rest : List Char} {values others : List String}
    (h : FillsChars text values filled) (hmore : FillsChars more others rest) :
    FillsChars (text ++ more) (values ++ others) (filled ++ rest) := by
  induction h with
  | nil => exact hmore
  | keep hc _ ih => exact .keep hc ih
  | put value _ ih => simpa using FillsChars.put value ih

theorem FillsChars.count_eq {text filled : List Char} {values : List String}
    (h : FillsChars text values filled) : text.count placeholder = values.length := by
  induction h with
  | nil => rfl
  | keep hc _ ih => rw [List.count_cons_of_ne hc, ih]
  | put value _ ih => rw [List.count_cons_self, ih, List.length_cons]

theorem fillsChars_self {text : List Char} (hplain : placeholder ∉ text) :
    FillsChars text [] text := by
  induction text with
  | nil => exact .nil
  | cons c rest ih =>
      rw [List.mem_cons, not_or] at hplain
      exact .keep (Ne.symm hplain.1) (ih hplain.2)

namespace Fills

theorem append {text more filled rest : String} {values others : List String}
    (h : Fills text values filled) (hmore : Fills more others rest) :
    Fills (text ++ more) (values ++ others) (filled ++ rest) := by
  simpa [Fills] using FillsChars.append h hmore

theorem self {text : String} (hplain : placeholder ∉ text.toList) : Fills text [] text :=
  fillsChars_self hplain

theorem mark (value : String) : Fills "?" [value] value := by
  simpa [Fills, placeholder] using FillsChars.put value .nil

/-- After a piece of text comes one more value. -/
theorem value {text filled : String} {values : List String} (h : Fills text values filled)
    (front : String) (hplain : placeholder ∉ front.toList) (value : String) :
    Fills (text ++ front ++ "?") (values ++ [value]) (filled ++ front ++ value) := by
  simpa using (h.append (self hplain)).append (mark value)

/-- Items that are filled one by one are filled in a row, with a separator between them. -/
theorem intercalate {α : Type} (separator : String) (hplain : placeholder ∉ separator.toList)
    {items : List α} {text filled : α → String} {values : α → List String}
    (h : ∀ item ∈ items, Fills (text item) (values item) (filled item)) :
    Fills (separator.intercalate (items.map text)) (items.flatMap values)
      (separator.intercalate (items.map filled)) := by
  induction items with
  | nil => exact .nil
  | cons item rest ih =>
      obtain ⟨hitem, hrest⟩ := List.forall_mem_cons.mp h
      cases rest with
      | nil => simpa using hitem
      | cons next others =>
          have hfront := hitem.append (self hplain)
          simpa [String.append_assoc] using hfront.append (ih hrest)

end Fills

/-! ## Conditions with their values -/

namespace Condition

/-- A condition with its values written in their places. -/
def written (write : Cell → String) : Condition → String
  | like term pattern => term.text ++ " LIKE " ++ write pattern ++ " ESCAPE '\\'"
  | between term low high => term.text ++ " BETWEEN " ++ write low ++ " AND " ++ write high
  | atLeast term low => term.text ++ " >= " ++ write low
  | atMost term high => term.text ++ " <= " ++ write high
  | isNull term => term.text ++ " IS NULL"
  | isIn term values => term.text ++ " IN (" ++ ", ".intercalate (values.map write) ++ ")"

end Condition

theorem placeholder_not_mem_term (term : Term) : placeholder ∉ term.text.toList := by
  cases term with
  | column field => cases field <;> decide +kernel
  | lowered field => cases field <;> decide +kernel
  | dateKey => decide +kernel

/-- The parameters of a condition fill its text with its own values. -/
theorem Condition.fills (write : Cell → String) (condition : Condition) :
    Fills condition.text (condition.parameters.map write) (condition.written write) := by
  have hterm (term : Term) : Fills term.text [] term.text :=
    .self (placeholder_not_mem_term term)
  cases condition with
  | like term pattern =>
      have hlike := (hterm term).value " LIKE " (by decide) (write pattern)
      have hescape : Fills " ESCAPE '\\'" [] " ESCAPE '\\'" := .self (by decide)
      simpa [text, written, parameters, String.append_assoc] using hlike.append hescape
  | between term low high =>
      have hlow := (hterm term).value " BETWEEN " (by decide) (write low)
      have hhigh := hlow.value " AND " (by decide) (write high)
      simpa [text, written, parameters, String.append_assoc] using hhigh
  | atLeast term low =>
      have hlow := (hterm term).value " >= " (by decide) (write low)
      simpa [text, written, parameters, String.append_assoc] using hlow
  | atMost term high =>
      have hhigh := (hterm term).value " <= " (by decide) (write high)
      simpa [text, written, parameters, String.append_assoc] using hhigh
  | isNull term => exact (hterm term).append (.self (by decide))
  | isIn term values =>
      have hvalues := Fills.intercalate ", " (by decide)
        fun value (_ : value ∈ values) => Fills.mark (write value)
      have hopened := (hterm term).append (.self (by decide : placeholder ∉ " IN (".toList))
      have hclosed := (hopened.append hvalues).append (.self (by decide : placeholder ∉ ")".toList))
      simpa [text, written, parameters, ← List.map_eq_flatMap] using hclosed

namespace Clause

def written (write : Cell → String) (clause : Clause) : String :=
  let inner := " OR ".intercalate (clause.conditions.map (·.written write))
  if clause.bracketed then "(" ++ inner ++ ")" else inner

theorem fills (write : Cell → String) (clause : Clause) :
    Fills clause.text (clause.parameters.map write) (clause.written write) := by
  have hinner := Fills.intercalate " OR " (by decide)
    fun condition (_ : condition ∈ clause.conditions) => condition.fills write
  rw [← List.map_flatMap] at hinner
  rw [text, written]
  split
  next =>
    have hopened : Fills "(" [] "(" := .self (by decide)
    have hclosed : Fills ")" [] ")" := .self (by decide)
    simpa [parameters] using (hopened.append hinner).append hclosed
  next => exact hinner

end Clause

namespace Select

/-- A statement with the values of its parameters written in their places, each clause with its
own. -/
def written (write : Cell → String) (select : Select) : String :=
  source ++
    (if select.clauses.isEmpty then ""
      else " WHERE " ++ " AND ".intercalate (select.clauses.map (·.written write))) ++
    " ORDER BY " ++ ", ".intercalate (select.orderBy.map orderText)

theorem placeholder_not_mem_source : placeholder ∉ source.toList := by
  have happend {front back : String} (hfront : placeholder ∉ front.toList)
      (hback : placeholder ∉ back.toList) : placeholder ∉ (front ++ back).toList := by
    simp [hfront, hback]
  unfold source
  -- One piece at a time: evaluating the whole text is slow.
  refine happend (happend (happend (happend ?_ ?_) ?_) ?_) ?_ <;> decide +kernel

theorem placeholder_not_mem_orderText (key : OrderBy) : placeholder ∉ (orderText key).toList := by
  obtain ⟨field, descending⟩ := key
  cases field <;> cases descending <;> decide +kernel

theorem fills_where (write : Cell → String) (clauses : List Clause) :
    Fills
      (if clauses.isEmpty then "" else " WHERE " ++ " AND ".intercalate (clauses.map (·.text)))
      (clauses.flatMap fun clause => clause.parameters.map write)
      (if clauses.isEmpty then ""
        else " WHERE " ++ " AND ".intercalate (clauses.map (·.written write))) := by
  split
  next hnone =>
    rw [List.isEmpty_iff.mp hnone]
    exact .nil
  next =>
    have hword : Fills " WHERE " [] " WHERE " := .self (by decide)
    exact hword.append <| .intercalate " AND " (by decide) fun clause _ => clause.fills write

theorem fills_orderBy (orderBy : List OrderBy) :
    Fills (", ".intercalate (orderBy.map orderText)) []
      (", ".intercalate (orderBy.map orderText)) := by
  have hnone : orderBy.flatMap (fun _ => ([] : List String)) = [] :=
    List.flatMap_eq_nil_iff.mpr fun _ _ => rfl
  rw [← hnone]
  exact .intercalate ", " (by decide) fun key _ => .self (placeholder_not_mem_orderText key)

theorem fills (write : Cell → String) (select : Select) :
    Fills select.text (select.parameters.map write) (select.written write) := by
  have hsource : Fills source [] source := .self placeholder_not_mem_source
  have hword : Fills " ORDER BY " [] " ORDER BY " := .self (by decide)
  have hclauses := hsource.append (fills_where write select.clauses)
  have hall := (hclauses.append hword).append (fills_orderBy select.orderBy)
  rw [List.nil_append, List.append_nil, List.append_nil] at hall
  rw [parameters, List.map_flatMap]
  exact hall

end Select

/-! ## Filters of one text -/

/-- Filters whose clauses have one text: they differ in the values that they compare with. -/
inductive Filter.Alike : Filter → Filter → Prop where
  | like (field : TextField) (pattern other : String) :
      Alike (.like field pattern) (.like field other)
  | dates {after before after' before' : Option Int} (hafter : after.isSome = after'.isSome)
      (hbefore : before.isSome = before'.isSome) :
      Alike (.dates after before) (.dates after' before')
  | costs {low high low' high' : Option Money} (hlow : low.isSome = low'.isSome)
      (hhigh : high.isSome = high'.isSome) : Alike (.costs low high) (.costs low' high')
  | types {ids ids' : List Int} (untyped : Bool) (hlength : ids.length = ids'.length) :
      Alike (.types ids untyped) (.types ids' untyped)

theorem text_boundsOf (term : Term) {low high low' high' : Option Int}
    (hlow : low.isSome = low'.isSome) (hhigh : high.isSome = high'.isSome) :
    (boundsOf term low high).text = (boundsOf term low' high').text := by
  cases low <;> cases low' <;> simp at hlow <;> cases high <;> cases high' <;> simp at hhigh <;> rfl

theorem isSome_of_boundUnits {precision : Int} {bound : Option Money} {units : Option Int}
    (h : boundUnits precision bound = .ok units) : units.isSome = bound.isSome := by
  cases bound with
  | none =>
      cases h
      rfl
  | some bound =>
      obtain ⟨amount, _, rfl⟩ := map_eq_ok.mp h
      rfl

theorem Filter.Alike.text_eq {filter other : Filter} (h : filter.Alike other) {p q : Int}
    {clause clause' : Clause} (hclause : filter.clause p = .ok clause)
    (hother : other.clause q = .ok clause') : clause.text = clause'.text := by
  cases h with
  | like field pattern other =>
      cases hclause
      cases hother
      rfl
  | dates hafter hbefore =>
      cases hclause
      cases hother
      simp only [Clause.text, List.map_cons, text_boundsOf .dateKey hafter hbefore, List.map_nil]
  | costs hlow hhigh =>
      obtain ⟨low, hlowUnits, hrest⟩ := bind_eq_ok.mp hclause
      obtain ⟨high, hhighUnits, hend⟩ := bind_eq_ok.mp hrest
      obtain ⟨low', hlowUnits', hrest'⟩ := bind_eq_ok.mp hother
      obtain ⟨high', hhighUnits', hend'⟩ := bind_eq_ok.mp hrest'
      cases hend
      cases hend'
      rw [← isSome_of_boundUnits hlowUnits, ← isSome_of_boundUnits hlowUnits'] at hlow
      rw [← isSome_of_boundUnits hhighUnits, ← isSome_of_boundUnits hhighUnits'] at hhigh
      simp only [Clause.text, List.map_cons, text_boundsOf (.column .cost) hlow hhigh, List.map_nil]
  | @types ids ids' untyped hlength =>
      cases hclause
      cases hother
      have hempty : ids.isEmpty = ids'.isEmpty := by
        rw [Bool.eq_iff_iff, List.isEmpty_iff_length_eq_zero, List.isEmpty_iff_length_eq_zero,
          hlength]
      have hin : (Condition.isIn (.column .typeId) (ids.map .integer)).text =
          (Condition.isIn (.column .typeId) (ids'.map .integer)).text := by
        simp only [Condition.text, List.map_const', List.length_map, hlength]
      rw [Clause.text, Clause.text, List.map_append, List.map_append, hempty]
      cases ids'.isEmpty with
      | true => rfl
      | false =>
          simp only [Bool.false_eq_true, if_false, List.map_cons, hin, List.map_nil]

theorem texts_eq {filters others : List Filter} (h : List.Forall₂ Filter.Alike filters others)
    {p q : Int} {clauses clauses' : List Clause}
    (hclauses : filters.mapM (·.clause p) = .ok clauses)
    (hothers : others.mapM (·.clause q) = .ok clauses') :
    clauses.map (·.text) = clauses'.map (·.text) := by
  rw [mapM_eq_ok] at hclauses hothers
  induction h generalizing clauses clauses' with
  | nil => rw [List.map_eq_nil_iff.mp hclauses.symm, List.map_eq_nil_iff.mp hothers.symm]
  | cons halike _ ih =>
      obtain _ | ⟨clause, clauses⟩ := clauses
      · cases hclauses
      obtain _ | ⟨clause', clauses'⟩ := clauses'
      · cases hothers
      obtain ⟨hclause, hclauses⟩ := List.cons.inj hclauses
      obtain ⟨hclause', hclauses'⟩ := List.cons.inj hothers
      rw [List.map_cons, List.map_cons, halike.text_eq hclause hclause', ih hclauses hclauses']

theorem Select.text_congr {select other : Select}
    (hclauses : select.clauses.map (·.text) = other.clauses.map (·.text))
    (horder : select.orderBy = other.orderBy) : select.text = other.text := by
  have hempty : select.clauses.isEmpty = other.clauses.isEmpty := by
    rw [← List.isEmpty_map (f := Clause.text), hclauses, List.isEmpty_map]
  rw [text, text, hempty, hclauses, horder]

/-! ## The shape of criteria -/

/-- What of criteria shows in the text of their statement: which conditions are set, how many types
are asked for, and the order. -/
structure Shape where
  title : Bool
  notes : Bool
  after : Bool
  before : Bool
  minCost : Bool
  maxCost : Bool
  withoutType : Bool
  types : Bool
  noType : Bool
  typeCount : Nat
  sortKey : SortKey
  descending : Bool
  deriving DecidableEq

def Criteria.shape (criteria : Criteria) : Shape where
  title := criteria.title ≠ ""
  notes := criteria.notes ≠ ""
  after := criteria.after.isSome
  before := criteria.before.isSome
  minCost := criteria.minCost.any (!·.isZero)
  maxCost := criteria.maxCost.any (!·.isZero)
  withoutType := criteria.withoutType
  types := criteria.typeIds ≠ []
  noType := SpendType.noType ∈ criteria.typeIds
  typeCount := (criteria.typeIds.toFinset.erase SpendType.noType).card
  sortKey := criteria.sortKey
  descending := criteria.descending

theorem textFilter_alike (field : TextField) (exactly exactly' : Bool) {text other : String}
    (h : decide (text ≠ "") = decide (other ≠ "")) :
    Option.Rel Filter.Alike (textFilter field exactly text) (textFilter field exactly' other) := by
  have hempty : text.isEmpty = other.isEmpty := by
    rw [Bool.eq_iff_iff, String.isEmpty_iff, String.isEmpty_iff]
    exact not_iff_not.mp (decide_eq_decide.mp h)
  rw [textFilter, textFilter, hempty]
  split
  · exact .none
  · exact .some (.like ..)

theorem dateFilter_alike {after before after' before' : Option Date}
    (hafter : after.isSome = after'.isSome) (hbefore : before.isSome = before'.isSome) :
    Option.Rel Filter.Alike (dateFilter after before) (dateFilter after' before') := by
  simp only [dateFilter, ← Option.not_isSome, hafter, hbefore]
  split
  · exact .none
  · exact .some (.dates (by simpa using hafter) (by simpa using hbefore))

theorem costFilter_alike {low high low' high' : Option Money}
    (hlow : low.any (!·.isZero) = low'.any (!·.isZero))
    (hhigh : high.any (!·.isZero) = high'.any (!·.isZero)) :
    Option.Rel Filter.Alike (costFilter low high) (costFilter low' high') := by
  rw [← Option.isSome_filter, ← Option.isSome_filter] at hlow hhigh
  simp only [costFilter, ← Option.not_isSome, hlow, hhigh]
  split
  · exact .none
  · exact .some (.costs hlow hhigh)

theorem nodup_eraseDups : ∀ ids : List Int, ids.eraseDups.Nodup
  | [] => List.nodup_nil
  | id :: rest => by
      rw [List.eraseDups_cons, List.nodup_cons]
      exact ⟨by simp, nodup_eraseDups _⟩
termination_by ids => ids.length
decreasing_by exact Nat.lt_succ_of_le (List.length_filter_le ..)

theorem length_distinct (ids : List Int) :
    (ids.filter (· != SpendType.noType)).eraseDups.length =
      (ids.toFinset.erase SpendType.noType).card := by
  rw [← List.toFinset_card_of_nodup (nodup_eraseDups _)]
  congr 1
  ext id
  simp [and_comm]

theorem typeFilter_alike {withoutType withoutType' : Bool} {ids ids' : List Int}
    (hwithout : withoutType = withoutType') (hgiven : decide (ids ≠ []) = decide (ids' ≠ []))
    (hnone : decide (SpendType.noType ∈ ids) = decide (SpendType.noType ∈ ids'))
    (hcount : (ids.toFinset.erase SpendType.noType).card =
      (ids'.toFinset.erase SpendType.noType).card) :
    Option.Rel Filter.Alike (typeFilter withoutType ids) (typeFilter withoutType' ids') := by
  have hempty : ids.isEmpty = ids'.isEmpty := by
    rw [Bool.eq_iff_iff, List.isEmpty_iff, List.isEmpty_iff]
    exact not_iff_not.mp (decide_eq_decide.mp hgiven)
  rw [← length_distinct, ← length_distinct] at hcount
  rw [typeFilter, typeFilter, hwithout, hempty, List.contains_eq_mem, List.contains_eq_mem, hnone]
  split
  · exact .some (.types _ rfl)
  · split
    · exact .none
    · exact .some (.types _ hcount)

theorem Criteria.filters_alike {a b : Criteria} (h : a.shape = b.shape) :
    List.Forall₂ Filter.Alike a.query.filters b.query.filters := by
  have htitle := textFilter_alike .title a.titleExactly b.titleExactly (congrArg Shape.title h)
  have hnotes := textFilter_alike .notes a.notesExactly b.notesExactly (congrArg Shape.notes h)
  have hdates := dateFilter_alike (congrArg Shape.after h) (congrArg Shape.before h)
  have hcosts := costFilter_alike (congrArg Shape.minCost h) (congrArg Shape.maxCost h)
  have htypes := typeFilter_alike (congrArg Shape.withoutType h) (congrArg Shape.types h)
    (congrArg Shape.noType h) (congrArg Shape.typeCount h)
  exact List.rel_filterMap (fun _ _ hfilter => hfilter)
    (.cons htitle (.cons hnotes (.cons hdates (.cons hcosts (.cons htypes .nil)))))

/-! ## Brackets -/

/-- A text that can stand within brackets: it is not empty, no bracket in it is closed right after
it has been opened, and it neither starts with a closing bracket nor ends with an opening one. -/
structure IsEnclosable (text : String) : Prop where
  filled : text.toList.IsChain fun c d => ¬ (c = '(' ∧ d = ')')
  first : ∃ c, text.toList.head? = some c ∧ c ≠ ')'
  last : ∃ c, text.toList.getLast? = some c ∧ c ≠ '('

instance (text : String) : Decidable (IsEnclosable text) :=
  decidable_of_iff
    ((text.toList.IsChain fun c d => ¬ (c = '(' ∧ d = ')')) ∧
      text.toList.head?.any (· ≠ ')') = true ∧ text.toList.getLast?.any (· ≠ '(') = true) <| by
    simp only [Option.any_eq_true, decide_eq_true_eq]
    exact ⟨fun ⟨filled, first, last⟩ => ⟨filled, first, last⟩, fun h => ⟨h.filled, h.first, h.last⟩⟩

namespace IsEnclosable

theorem no_empty_brackets {text : String} (h : IsEnclosable text) : ¬ ['(', ')'] <:+: text.toList := by
  intro hempty
  simpa using h.filled.infix hempty

theorem append {text more : String} (h : IsEnclosable text) (hmore : IsEnclosable more) :
    IsEnclosable (text ++ more) := by
  obtain ⟨c, hc, hfirst⟩ := h.first
  obtain ⟨d, hd, hlast⟩ := h.last
  obtain ⟨e, he, hend⟩ := hmore.last
  constructor
  · rw [String.toList_append, List.isChain_append]
    refine ⟨h.filled, hmore.filled, ?_⟩
    -- The first text does not end with an opening bracket that the second one could close.
    rintro x hx _ _ ⟨rfl, _⟩
    rw [hd] at hx
    exact hlast (Option.some.inj hx)
  · exact ⟨c, by simp [List.head?_append, hc], hfirst⟩
  · exact ⟨e, by simp [List.getLast?_append, he], hend⟩

theorem bracketed {text : String} (h : IsEnclosable text) : IsEnclosable ("(" ++ text ++ ")") := by
  obtain ⟨c, hc, hfirst⟩ := h.first
  obtain ⟨d, hd, hlast⟩ := h.last
  have htext : ("(" ++ text ++ ")").toList = '(' :: (text.toList ++ [')']) := by simp
  constructor
  · rw [htext, List.isChain_cons, List.isChain_append]
    refine ⟨?_, h.filled, .singleton _, ?_⟩
    · simp [List.head?_append, hc, hfirst]
    · simp [hd, hlast]
  · exact ⟨'(', by simp, by decide⟩
  · exact ⟨')', by simp [List.getLast?_append, List.getLast?_cons], by decide⟩

theorem intercalate {separator : String} (hseparator : IsEnclosable separator)
    {items : List String} (hitems : ∀ item ∈ items, IsEnclosable item) (hne : items ≠ []) :
    IsEnclosable (separator.intercalate items) := by
  induction items with
  | nil => exact absurd rfl hne
  | cons item rest ih =>
      obtain ⟨hitem, hrest⟩ := List.forall_mem_cons.mp hitems
      cases rest with
      | nil => simpa using hitem
      | cons next others =>
          rw [String.intercalate_cons_cons]
          exact (hitem.append hseparator).append (ih hrest (by simp))

theorem term (term : Term) : IsEnclosable term.text := by
  cases term with
  | column field => cases field <;> decide
  | lowered field => cases field <;> decide +kernel
  | dateKey => decide +kernel

theorem condition {condition : Condition}
    (hvalues : ∀ term values, condition = .isIn term values → values ≠ []) :
    IsEnclosable condition.text := by
  cases condition with
  | like bounded pattern => exact (term bounded).append (by decide +kernel)
  | between bounded low high => exact (term bounded).append (by decide)
  | atLeast bounded low => exact (term bounded).append (by decide)
  | atMost bounded high => exact (term bounded).append (by decide)
  | isNull bounded => exact (term bounded).append (by decide)
  | isIn bounded values =>
      have hmarks : IsEnclosable (", ".intercalate (values.map fun _ => "?")) := by
        apply intercalate (by decide)
        · intro item hitem
          obtain ⟨_, _, rfl⟩ := List.mem_map.mp hitem
          decide
        · simpa using hvalues bounded values rfl
      have htext : (Condition.isIn bounded values).text =
          bounded.text ++ " IN " ++ ("(" ++ ", ".intercalate (values.map fun _ => "?") ++ ")") := by
        rw [← String.toList_inj]
        simp [Condition.text]
      rw [htext]
      exact ((term bounded).append (by decide)).append hmarks.bracketed

theorem clause {clause : Clause} (hne : clause.conditions ≠ [])
    (hconditions : ∀ condition ∈ clause.conditions, IsEnclosable condition.text) :
    IsEnclosable clause.text := by
  have hinner : IsEnclosable (" OR ".intercalate (clause.conditions.map (·.text))) := by
    apply intercalate (by decide) ?_ (by simpa using hne)
    intro item hitem
    obtain ⟨condition, hcondition, rfl⟩ := List.mem_map.mp hitem
    exact hconditions condition hcondition
  rw [Clause.text]
  split
  · exact hinner.bracketed
  · exact hinner

theorem bounds (term : Term) (low high : Option Int) :
    IsEnclosable (boundsOf term low high).text := by
  cases low <;> cases high <;> exact condition nofun

end IsEnclosable

/-- A filter on types that is set asks for something: for a type or for no type. -/
theorem typeFilter_asks {withoutType untyped : Bool} {ids asked : List Int}
    (hfilter : typeFilter withoutType ids = some (.types asked untyped)) :
    untyped = true ∨ asked ≠ [] := by
  unfold typeFilter at hfilter
  split at hfilter
  next =>
    cases hfilter
    exact .inl rfl
  next =>
    split at hfilter
    next => cases hfilter
    next hgiven =>
      cases hfilter
      rw [List.contains_eq_mem, decide_eq_true_iff, Classical.or_iff_not_imp_left]
      intro hnone
      -- An identifier that is not zero is kept, and a given list without zero has one.
      obtain ⟨id, hid⟩ := List.exists_mem_of_ne_nil _ (mt List.isEmpty_iff.mpr hgiven)
      have hkept : id ∈ (ids.filter (· != SpendType.noType)).eraseDups := by
        rw [List.mem_eraseDups, List.mem_filter, bne_iff_ne]
        exact ⟨hid, fun hzero => hnone (hzero ▸ hid)⟩
      exact List.ne_nil_of_mem hkept

theorem types_of_mem_filters {criteria : Criteria} {asked : List Int} {untyped : Bool}
    (hfilter : .types asked untyped ∈ criteria.query.filters) :
    typeFilter criteria.withoutType criteria.typeIds = some (.types asked untyped) := by
  rcases mem_filters.mp hfilter with htitle | hnotes | hdates | hcosts | htypes
  · cases textFilter_eq_some htitle
  · cases textFilter_eq_some hnotes
  · unfold dateFilter at hdates
    split at hdates <;> cases hdates
  · unfold costFilter at hcosts
    dsimp only at hcosts
    split at hcosts <;> cases hcosts
  · exact htypes

theorem Criteria.isEnclosable_clause {criteria : Criteria} {filter : Filter}
    (hfilter : filter ∈ criteria.query.filters) {precision : Int} {clause : Clause}
    (hclause : filter.clause precision = .ok clause) : IsEnclosable clause.text := by
  cases filter with
  | like field pattern =>
      cases hclause
      exact .clause (by simp) (by simpa using .condition nofun)
  | dates after before =>
      cases hclause
      exact .clause (by simp) (by simpa using .bounds ..)
  | costs low high =>
      obtain ⟨_, -, hrest⟩ := bind_eq_ok.mp hclause
      obtain ⟨_, -, hend⟩ := bind_eq_ok.mp hrest
      cases hend
      exact .clause (by simp) (by simpa using .bounds ..)
  | types asked untyped =>
      have hasks := typeFilter_asks (types_of_mem_filters hfilter)
      cases hclause
      apply IsEnclosable.clause
      · rcases hasks with rfl | hasked
        · simp
        · simp [hasked]
      · intro condition hcondition
        apply IsEnclosable.condition
        rintro term values rfl
        -- A list of types is a condition of the clause only if there are any.
        rcases List.mem_append.mp hcondition with hnull | hin
        · split at hnull <;> simp at hnull
        · split at hin
          next => cases hin
          next hasked =>
            obtain ⟨_, rfl⟩ := Condition.isIn.inj (List.mem_singleton.mp hin)
            simpa using hasked

/-- The brackets of a filter on types that asks for nothing would be empty. -/
example : (Filter.types [] false).clause 2 = .ok ⟨true, []⟩ ∧ Clause.text ⟨true, []⟩ = "()" :=
  ⟨rfl, by decide⟩

/-! ## Statements of criteria -/

/-- Criteria are rendered as a statement: each filter as a clause of its own, in order, with one
question mark for each parameter, and with the parameters at the places of their clauses. No clause
has an empty pair of brackets. -/
structure Criteria.IsRenderedAs (criteria : Criteria) (precision : Int) (select : Select) :
    Prop where
  clauses : criteria.query.filters.map (·.clause precision) = select.clauses.map .ok
  marked : select.text.toList.count placeholder = select.parameters.length
  placed : ∀ write, Fills select.text (select.parameters.map write) (select.written write)
  enclosing : ∀ clause ∈ select.clauses, ¬ ['(', ')'] <:+: clause.text.toList

theorem select_eq_ok {query : Query} {precision : Int} {select : Select} :
    query.select precision = .ok select ↔
      query.filters.mapM (·.clause precision) = .ok select.clauses ∧
        select.orderBy = query.orderBy := by
  obtain ⟨clauses, orderBy⟩ := select
  rw [Query.select, bind_eq_ok]
  simp only [pure_eq_ok, Select.mk.injEq]
  constructor
  · rintro ⟨_, hclauses, rfl, rfl⟩
    exact ⟨hclauses, rfl⟩
  · rintro ⟨hclauses, rfl⟩
    exact ⟨clauses, hclauses, rfl, rfl⟩

theorem Criteria.isRenderedAs {criteria : Criteria} {precision : Int} {select : Select}
    (h : criteria.query.select precision = .ok select) :
    criteria.IsRenderedAs precision select := by
  have hclauses := mapM_eq_ok.mp (select_eq_ok.mp h).1
  constructor
  · exact hclauses
  · have hfills := Select.fills (fun _ => "") select
    simpa [Fills] using hfills.count_eq
  · exact fun write => select.fills write
  · intro clause hclause
    have hmem : (Except.ok clause : Except Failure Clause) ∈
        criteria.query.filters.map (·.clause precision) := by
      rw [hclauses]
      exact List.mem_map_of_mem hclause
    obtain ⟨filter, hfilter, hrendered⟩ := List.mem_map.mp hmem
    exact (isEnclosable_clause hfilter hrendered).no_empty_brackets

theorem Criteria.orderBy_eq {a b : Criteria} (h : a.shape = b.shape) :
    a.query.orderBy = b.query.orderBy := by
  have hkey : a.sortKey = b.sortKey := congrArg Shape.sortKey h
  have hdescending : a.descending = b.descending := congrArg Shape.descending h
  simp only [query, hkey, hdescending]

/-- The texts of the statements of criteria of one shape are the same, whatever the criteria search
for, and both have their values in the parameters. -/
theorem select_text_eq_of_shape {a b : Criteria} (hshape : a.shape = b.shape) {p q : Int}
    {s t : Select} (hs : a.query.select p = .ok s) (ht : b.query.select q = .ok t) :
    s.text = t.text ∧ a.IsRenderedAs p s ∧ b.IsRenderedAs q t := by
  obtain ⟨hclauses, horder⟩ := select_eq_ok.mp hs
  obtain ⟨hclauses', horder'⟩ := select_eq_ok.mp ht
  refine ⟨?_, Criteria.isRenderedAs hs, Criteria.isRenderedAs ht⟩
  apply Select.text_congr
  · exact texts_eq (Criteria.filters_alike hshape) hclauses hclauses'
  · rw [horder, horder', Criteria.orderBy_eq hshape]

/-- Criteria whose texts would change a statement if they got into it. -/
def quoting : Criteria :=
  { Criteria.all with
    title := "' OR '?' = '?", notes := "()--%", after := some ⟨2024, 12, 31, by decide⟩,
    minCost := some ⟨0, 3⟩, maxCost := some ⟨-5, 1⟩, typeIds := [4, 0, 9, 4], sortKey := .cost,
    descending := true }

/-- Criteria of the same shape without any signs in their texts. -/
def unquoting : Criteria :=
  { quoting with
    title := "rent", notes := "paid", titleExactly := true,
    after := some ⟨1970, 1, 1, by decide⟩, minCost := none, maxCost := some ⟨12, 0⟩,
    typeIds := [0, 7, 1, 0] }

theorem select_text_quoting :
    ∃ s t, quoting.shape = unquoting.shape ∧ quoting.query.select 2 = .ok s ∧
      unquoting.query.select 2 = .ok t ∧ s.text = t.text ∧
      s.parameters = [.text "%' or '?' = '?%", .text "%()--%%", .integer 20241231, .integer (-50),
        .integer 4, .integer 9] ∧
      t.parameters = [.text "rent", .text "%paid%", .integer 19700101, .integer 1200, .integer 7,
        .integer 1] := by
  have hshape : quoting.shape = unquoting.shape := by decide +kernel
  obtain ⟨s, hs⟩ : ∃ s, quoting.query.select 2 = .ok s := by decide +kernel
  obtain ⟨t, ht⟩ : ∃ t, unquoting.query.select 2 = .ok t := by decide +kernel
  refine ⟨s, t, hshape, hs, ht, (select_text_eq_of_shape hshape hs ht).1, ?_, ?_⟩
  · revert s
    decide +kernel
  · revert t
    decide +kernel

end Allowance.Search
