import Allowance.Proofs.Currency
import Allowance.Proofs.Ledger.Rendering

/-!
# Searching a ledger

The statement of a search selects the same spends, in the same order, as the query of the search
applied to all spends in memory, unless the database reads texts in another way, a searched value
cannot be stored or the statement is too large.
-/

namespace Allowance.Ledger

open Search Outcome

variable {fits : Matcher} {precision : Nat} {records : List SpendRecord}

/-! ## Statements -/

/-- Filters that are rendered one by one make a statement that selects what all of them accept. -/
theorem exists_clauses {filters : List Filter}
    (hrenders : ∀ filter ∈ filters, ∃ clause, Renders fits precision records filter clause) :
    ∃ clauses, filters.mapM (·.clause precision) = .ok clauses ∧
      (∀ clause ∈ clauses, ∀ cell ∈ clause.parameters, requireCell cell = .ok ()) ∧
      ∀ record ∈ records, clauses.all (·.isMet fits (storedRow record)) =
        filters.all (·.holds record) := by
  induction filters with
  | nil => exact ⟨[], rfl, by simp, by simp⟩
  | cons filter rest ih =>
      obtain ⟨⟨clause, hclause⟩, hrest⟩ := List.forall_mem_cons.mp hrenders
      obtain ⟨clauses, hclauses, hstorable, hmet⟩ := ih hrest
      refine ⟨clause :: clauses, ?_, List.forall_mem_cons.mpr ⟨hclause.storable, hstorable⟩, ?_⟩
      · rw [mapM_eq_ok] at hclauses ⊢
        rw [List.map_cons, List.map_cons, hclauses, hclause.clause_eq]
      · intro record hrecord
        rw [List.all_cons, List.all_cons, hclause.isMet record hrecord, hmet record hrecord]

theorem selects_eq_all (clauses : List Clause) (orderBy : List OrderBy) (row : Row) :
    (Select.mk clauses orderBy).selects fits row = clauses.all (·.isMet fits row) := by
  rw [Bool.eq_iff_iff, Select.selects_iff, List.all_eq_true]

theorem compareOfLessAndEq_amount {a b : Money} (h : a.precision = b.precision) :
    compareOfLessAndEq a.amount b.amount = compareOfLessAndEq a.value b.value := by
  simp only [compareOfLessAndEq, Money.amount_lt_iff h, Money.amount_inj h]

/-- Stored spends compare under a key of a search as the spends do. -/
theorem compareBy_storedRow {criteria : Criteria} {key : OrderBy}
    (hkey : key ∈ criteria.query.orderBy) {a b : SpendRecord}
    (hcost : a.cost.precision = b.cost.precision) :
    Select.compareBy (storedRow a) (storedRow b) key = key.compare a b := by
  have hfield : Cell.compare (storedRow a key.field) (storedRow b key.field) =
      key.field.compare a b := by
    rcases List.mem_append.mp hkey with hsort | hid
    · obtain ⟨field, hfield, rfl⟩ := List.mem_map.mp hsort
      cases hsortKey : criteria.sortKey with
      | date =>
          simp only [hsortKey, SortKey.fields, List.mem_cons, List.not_mem_nil, or_false] at hfield
          rcases hfield with rfl | rfl | rfl <;> rfl
      | title =>
          simp only [hsortKey, SortKey.fields, List.mem_singleton] at hfield
          subst hfield
          rfl
      | cost =>
          simp only [hsortKey, SortKey.fields, List.mem_singleton] at hfield
          subst hfield
          rw [compare_cost]
          exact compareOfLessAndEq_amount hcost
    · obtain rfl := List.mem_singleton.mp hid
      rfl
  rw [Select.compareBy, OrderBy.compare, hfield]

theorem compare_storedRow (criteria : Criteria) (clauses : List Clause) {a b : SpendRecord}
    (hcost : a.cost.precision = b.cost.precision) :
    (Select.mk clauses criteria.query.orderBy).compare (storedRow a) (storedRow b) =
      criteria.query.compare a b := by
  apply List.foldl_ext
  intro found key hkey
  rw [compareBy_storedRow hkey hcost]

/-- A statement that selects what a query accepts gives what the query gives. -/
theorem run_eq_apply {criteria : Criteria} {clauses : List Clause}
    (hprecision : ∀ record ∈ records, record.cost.precision = precision)
    (hmet : ∀ record ∈ records, clauses.all (·.isMet fits (storedRow record)) =
      criteria.query.filters.all (·.holds record)) :
    (Select.mk clauses criteria.query.orderBy).run fits storedRow records =
      criteria.query.apply records := by
  have hfilter : records.filter ((Select.mk clauses criteria.query.orderBy).selects fits <|
      storedRow ·) = records.filter criteria.query.accepts := by
    apply List.filter_congr
    intro record hrecord
    rw [selects_eq_all, hmet record hrecord]
    rfl
  rw [Select.run, hfilter, Query.apply]
  conv_lhs => rw [← List.map_id (List.mergeSort _ _)]
  rw [List.map_mergeSort (s := fun a b => criteria.query.compare a b != .gt), List.map_id]
  intro a ha b hb
  rw [compare_storedRow criteria clauses]
  · rfl
  · rw [hprecision a (List.mem_filter.mp ha).1, hprecision b (List.mem_filter.mp hb).1]

/-! ## Searches -/

/-- The searched values of criteria can be stored, and their statement stays within the limits. -/
structure Searchable (precision : Nat) (criteria : Criteria) : Prop where
  low : ∀ m, criteria.minCost = some m → ∃ units, m.HasUnits precision units ∧ IsStorable units
  high : ∀ m, criteria.maxCost = some m → ∃ units, m.HasUnits precision units ∧ IsStorable units
  types : ∀ id ∈ criteria.typeIds, IsStorable id
  parameters : ∀ select, criteria.query.select precision = .ok select →
    select.parameters.length ≤ parameterLimit
  patterns : ∀ select, criteria.query.select precision = .ok select →
    ∀ clause ∈ select.clauses, ∀ condition ∈ clause.conditions, condition.isTooComplex = false

/-- The database reads the patterns of a search as documented for the texts of all spends. -/
def ReadsTexts (fits : Matcher) (criteria : Criteria) (records : List SpendRecord) : Prop :=
  ∀ record ∈ records,
    fits.Reads (escapePattern (patternOf criteria.titleExactly (Text.lower criteria.title)))
      (Text.lower record.title) ∧
    fits.Reads (escapePattern (patternOf criteria.notesExactly (Text.lower criteria.notes)))
      (Text.lower record.notes)

theorem exists_renders {criteria : Criteria} (hsearchable : Searchable precision criteria)
    (hprecision : ∀ record ∈ records, record.cost.precision = precision)
    (hreads : ReadsTexts fits criteria records) :
    ∀ filter ∈ criteria.query.filters, ∃ clause, Renders fits precision records filter clause := by
  intro filter hfilter
  rcases mem_filters.mp hfilter with htitle | hnotes | hdates | hcosts | htypes
  · exact exists_renders_text htitle fun record hrecord => (hreads record hrecord).1
  · exact exists_renders_text hnotes fun record hrecord => (hreads record hrecord).2
  · exact exists_renders_dates hdates
  · exact exists_renders_costs hcosts hsearchable.low hsearchable.high hprecision
  · exact exists_renders_types htypes hsearchable.types

theorem requirePreparable_eq_ok {select : Select}
    (hcount : select.parameters.length ≤ parameterLimit)
    (hstorable : ∀ cell ∈ select.parameters, requireCell cell = .ok ()) :
    requirePreparable select = .ok () := by
  have hcells : select.parameters.mapM requireCell = .ok (select.parameters.map fun _ => ()) := by
    rw [mapM_eq_ok, List.map_map]
    exact List.map_congr_left hstorable
  rw [requirePreparable, if_neg (by omega), hcells]
  rfl

/-- A search whose filters can be rendered, in a statement within the limits, finds what the query
accepts, in its order. -/
theorem searchBy_eq_apply_of_renders {l : Ledger} {criteria : Criteria}
    (hrenders : ∀ filter ∈ criteria.query.filters,
      ∃ clause, Renders fits l.precision l.records filter clause)
    (hcount : ∀ select, criteria.query.select l.precision = .ok select →
      select.parameters.length ≤ parameterLimit)
    (hpatterns : ∀ select, criteria.query.select l.precision = .ok select →
      ∀ clause ∈ select.clauses, ∀ condition ∈ clause.conditions, condition.isTooComplex = false)
    (hprecision : ∀ record ∈ l.records, record.cost.precision = l.precision) :
    l.searchBy fits criteria = .ok (criteria.query.apply l.records) := by
  obtain ⟨clauses, hclauses, hstorable, hmet⟩ := exists_clauses hrenders
  have hselect : criteria.query.select l.precision = .ok ⟨clauses, criteria.query.orderBy⟩ := by
    rw [Query.select, hclauses]
    rfl
  have hpreparable : requirePreparable ⟨clauses, criteria.query.orderBy⟩ = .ok () := by
    apply requirePreparable_eq_ok (hcount _ hselect)
    intro cell hcell
    obtain ⟨clause, hclause, hcell⟩ := List.mem_flatMap.mp hcell
    exact hstorable clause hclause cell hcell
  have hshort (row : Row) :
      (Select.mk clauses criteria.query.orderBy).failsAt fits row = false := by
    rw [Select.failsAt, reachesLongPattern_eq_false (hpatterns _ hselect), Bool.and_false]
  rw [searchBy, hselect]
  change (do
    requirePreparable ⟨clauses, criteria.query.orderBy⟩
    l.records? fits ⟨clauses, criteria.query.orderBy⟩) = _
  rw [hpreparable]
  change l.records? fits ⟨clauses, criteria.query.orderBy⟩ = _
  rw [records?, if_neg (by simp [hshort]), run_eq_apply hprecision hmet]

/-- A search that the database can carry out finds what the query accepts, in its order. -/
theorem searchBy_eq_apply {l : Ledger} {criteria : Criteria}
    (hsearchable : Searchable l.precision criteria)
    (hprecision : ∀ record ∈ l.records, record.cost.precision = l.precision)
    (hreads : ReadsTexts fits criteria l.records) :
    l.searchBy fits criteria = .ok (criteria.query.apply l.records) :=
  searchBy_eq_apply_of_renders (exists_renders hsearchable hprecision hreads)
    hsearchable.parameters hsearchable.patterns hprecision

/-! ## Bounds that are too precise -/

/-- A bound other than zero has more digits than a precision allows. -/
def TooPrecise (precision : Nat) (criteria : Criteria) : Prop :=
  ∃ m, (criteria.minCost = some m ∨ criteria.maxCost = some m) ∧ m.isZero = false ∧
    ∀ units, ¬ m.HasUnits precision units

theorem boundUnits_eq_error {bound : Option Money} {why : Failure}
    (h : boundUnits precision bound = .error why) :
    ∃ m, bound = some m ∧ why = .ofRejection (.tooPrecise m precision) := by
  cases bound with
  | none => cases h
  | some m =>
      refine ⟨m, rfl, ?_⟩
      by_cases hunits : ∃ units, m.HasUnits precision units
      · obtain ⟨units, hunits⟩ := hunits
        rw [boundUnits, Money.minorUnits_eq_ok.mpr hunits] at h
        cases h
      · rw [boundUnits, Money.minorUnits_eq_error (not_exists.mp hunits)] at h
        exact (Except.error.inj h).symm

theorem boundUnits_ne_ok {m : Money} (hnone : ∀ units, ¬ m.HasUnits precision units)
    (units : Option Int) : boundUnits precision (some m) ≠ .ok units := by
  rw [boundUnits, Money.minorUnits_eq_error hnone]
  intro h
  cases h

/-- A filter by cost is refused because of its first bound that is too precise. -/
theorem clause_costs_eq_error {low high : Option Money} {m : Money}
    (hm : low = some m ∨ high = some m) (hnone : ∀ units, ¬ m.HasUnits precision units) :
    ∃ first, (low = some first ∨ high = some first) ∧
      (Filter.costs low high).clause precision =
        .error (.ofRejection (.tooPrecise first precision)) := by
  rw [Filter.clause]
  cases hlow : boundUnits precision low with
  | error why =>
      obtain ⟨first, hfirst, hwhy⟩ := boundUnits_eq_error hlow
      exact ⟨first, .inl hfirst, hwhy ▸ rfl⟩
  | ok lowUnits =>
      cases hhigh : boundUnits precision high with
      | error why =>
          obtain ⟨first, hfirst, hwhy⟩ := boundUnits_eq_error hhigh
          exact ⟨first, .inr hfirst, hwhy ▸ rfl⟩
      | ok highUnits =>
          rcases hm with rfl | rfl
          · exact absurd hlow (boundUnits_ne_ok hnone _)
          · exact absurd hhigh (boundUnits_ne_ok hnone _)

/-- Only the filter by cost can be refused. -/
theorem costFilter_of_clause_error {criteria : Criteria} {filter : Filter} {why : Failure}
    (hfilter : filter ∈ criteria.query.filters) (hwhy : filter.clause precision = .error why) :
    costFilter criteria.minCost criteria.maxCost = some filter := by
  rcases mem_filters.mp hfilter with htitle | hnotes | hdates | hcosts | htypes
  · rw [textFilter_eq_some htitle] at hwhy
    cases hwhy
  · rw [textFilter_eq_some hnotes] at hwhy
    cases hwhy
  · unfold dateFilter at hdates
    split at hdates
    · cases hdates
    · rw [← Option.some.inj hdates] at hwhy
      cases hwhy
  · exact hcosts
  · cases filter with
    | types ids untyped => cases hwhy
    | _ =>
        unfold typeFilter at htypes
        split at htypes
        · cases htypes
        · split at htypes <;> cases htypes

theorem searchBy_tooPrecise {l : Ledger} {criteria : Criteria}
    (h : TooPrecise l.precision criteria) :
    ∃ m, (criteria.minCost = some m ∨ criteria.maxCost = some m) ∧
      l.searchBy fits criteria = .error (.ofRejection (.tooPrecise m l.precision)) := by
  obtain ⟨m, hm, hzero, hnone⟩ := h
  -- Only a bound of zero is dropped before the units are looked for.
  have hkept : criteria.minCost.filter (!·.isZero) = some m ∨
      criteria.maxCost.filter (!·.isZero) = some m :=
    hm.imp (fun hlow => by simp [hlow, hzero]) fun hhigh => by simp [hhigh, hzero]
  obtain ⟨first, hfirst, hclause⟩ := clause_costs_eq_error hkept hnone
  have hcosts : costFilter criteria.minCost criteria.maxCost =
      some (.costs (criteria.minCost.filter (!·.isZero))
        (criteria.maxCost.filter (!·.isZero))) := by
    rcases hkept with hlow | hhigh
    · simp [costFilter, hlow]
    · simp [costFilter, hhigh]
  refine ⟨first, hfirst.imp ?_ ?_, ?_⟩
  · exact fun hlow => (Option.filter_eq_some_iff.mp hlow).1
  · exact fun hhigh => (Option.filter_eq_some_iff.mp hhigh).1
  · have hfilters : criteria.query.filters.mapM (·.clause l.precision) =
        .error (.ofRejection (.tooPrecise first l.precision)) := by
      apply mapM_eq_error
      · exact ⟨_, mem_filters.mpr (.inr (.inr (.inr (.inl hcosts)))), hclause⟩
      · intro filter hfilter why hwhy
        have hsame := costFilter_of_clause_error hfilter hwhy
        rw [hcosts, Option.some.injEq] at hsame
        rw [← hsame, hclause] at hwhy
        exact (Except.error.inj hwhy).symm
    rw [searchBy, Query.select, hfilters]
    rfl

/-! ## All spends -/

/-- Every stored spend has its day and its month, so that it has a date. -/
theorem exists_recordOf? {l : Ledger} (h : Integrity l) {row : SpendRow} (hrow : row ∈ l.spends) :
    ∃ day ∈ l.days, ∃ month ∈ l.months, day.id = row.dayId ∧ month.id = day.monthId ∧
      l.recordOf? row = some ⟨row.id, month.year, month.month, day.day, row.title,
        l.money row.cost, row.typeId, row.notes⟩ := by
  obtain ⟨day, hday, hdayId⟩ := Table.mem_numbers.mp (h.spendDay row hrow)
  obtain ⟨month, hmonth, hmonthId⟩ := Table.mem_numbers.mp (h.dayMonth day hday)
  refine ⟨day, hday, month, hmonth, hdayId, hmonthId, ?_⟩
  have hfindDay : Table.find? l.days row.dayId = some day :=
    hdayId ▸ h.days.find?_number hday
  have hfindMonth : Table.find? l.months day.monthId = some month :=
    hmonthId ▸ h.months.find?_number hmonth
  rw [recordOf?, hfindDay]
  change (do
    let month ← Table.find? l.months day.monthId
    _) = _
  rw [hfindMonth]
  rfl

/-- The spends that a search looks at are all stored spends, each with its date. -/
theorem records_eq {l : Ledger} (h : Integrity l) :
    l.records.map some = l.spends.map l.recordOf? := by
  have hdated : ∀ row ∈ l.spends, ∃ record, l.recordOf? row = some record := by
    intro row hrow
    obtain ⟨_, _, _, _, _, _, hrecord⟩ := exists_recordOf? h hrow
    exact ⟨_, hrecord⟩
  rw [records]
  generalize l.spends = rows at hdated
  induction rows with
  | nil => rfl
  | cons row rest ih =>
      obtain ⟨⟨record, hrecord⟩, hrest⟩ := List.forall_mem_cons.mp hdated
      rw [List.filterMap_cons_some hrecord, List.map_cons, List.map_cons, ih hrest, hrecord]

theorem records_id {l : Ledger} (h : Integrity l) :
    l.records.map (·.id) = l.spends.map (·.id) := by
  rw [records, List.map_filterMap, List.filterMap_eq_map_iff_forall_eq_some]
  intro row hrow
  obtain ⟨_, _, _, _, _, _, hrecord⟩ := exists_recordOf? h hrow
  rw [hrecord]
  rfl

theorem nodup_records {l : Ledger} (h : Integrity l) : (l.records.map (·.id)).Nodup := by
  rw [records_id h]
  exact h.spends.sorted.imp Int.ne_of_lt

theorem exists_of_mem_records {l : Ledger} (h : Integrity l) {record : SpendRecord}
    (hrecord : record ∈ l.records) :
    ∃ row ∈ l.spends, record.title = row.title ∧ record.notes = row.notes ∧
      record.cost = l.money row.cost := by
  obtain ⟨row, hrow, hfound⟩ := List.mem_filterMap.mp hrecord
  obtain ⟨_, _, _, _, _, _, hdated⟩ := exists_recordOf? h hrow
  rw [hdated, Option.some.injEq] at hfound
  subst hfound
  exact ⟨row, hrow, rfl, rfl, rfl⟩

theorem precision_of_mem_records {l : Ledger} (h : Integrity l) {record : SpendRecord}
    (hrecord : record ∈ l.records) : record.cost.precision = l.precision := by
  obtain ⟨_, _, _, _, hcost⟩ := exists_of_mem_records h hrecord
  rw [hcost]
  rfl

/-! ## Characters of texts and patterns -/

section Characters

variable {allowed : Char → Prop} (hlowered : ∀ c, Text.Case.IsLowered c.toNat → allowed c)
include hlowered

theorem charsAre_lower {text : String} (h : CharsAre allowed text) :
    CharsAre allowed (Text.lower text) :=
  fun c hc => (Text.mem_lower hc).elim (h c) (hlowered c)

theorem charsAre_pattern (hwildcard : allowed wildcard) (hescape : allowed '\\')
    (exactly : Bool) {text : String} (h : CharsAre allowed text) :
    CharsAre allowed (escapePattern (patternOf exactly (Text.lower text))) := by
  intro c hc
  rw [escapePattern, String.toList_ofList] at hc
  obtain ⟨d, hd, hc⟩ := List.mem_flatMap.mp hc
  have hallowed : allowed d := by
    rcases mem_patternOf hd with hmem | rfl
    · exact charsAre_lower hlowered h d hmem
    · exact hwildcard
  split at hc
  · simp only [List.mem_cons, List.not_mem_nil, or_false] at hc
    rcases hc with rfl | rfl
    · exact hescape
    · exact hallowed
  · obtain rfl := List.mem_singleton.mp hc
    exact hallowed

end Characters

/-- All characters of the texts of spends and of the searched texts are allowed ones. -/
structure TextsAre (allowed : Char → Prop) (l : Ledger) (criteria : Criteria) : Prop where
  spends : ∀ row ∈ l.spends, CharsAre allowed row.title ∧ CharsAre allowed row.notes
  title : CharsAre allowed criteria.title
  notes : CharsAre allowed criteria.notes

theorem TextsAre.readsTexts {allowed : Char → Prop} {l : Ledger} {criteria : Criteria}
    (htexts : TextsAre allowed l criteria) (h : Integrity l)
    (hlowered : ∀ c, Text.Case.IsLowered c.toNat → allowed c) (hwildcard : allowed wildcard)
    (hescape : allowed '\\')
    (hreads : ∀ pattern text : String, CharsAre allowed pattern → CharsAre allowed text →
      fits.Reads pattern text) :
    ReadsTexts fits criteria l.records := by
  intro record hrecord
  obtain ⟨row, hrow, htitle, hnotes, _⟩ := exists_of_mem_records h hrecord
  obtain ⟨hrowTitle, hrowNotes⟩ := htexts.spends row hrow
  have hpattern (exactly : Bool) {text : String} (hchars : CharsAre allowed text) :=
    charsAre_pattern hlowered hwildcard hescape exactly hchars
  rw [htitle, hnotes]
  exact ⟨hreads _ _ (hpattern _ htexts.title) (charsAre_lower hlowered hrowTitle),
    hreads _ _ (hpattern _ htexts.notes) (charsAre_lower hlowered hrowNotes)⟩

/-! ## Runs -/

theorem searchBy_eq_apply_perm {l : Ledger} {criteria : Criteria} (h : Integrity l)
    (hsearchable : Searchable l.precision criteria)
    (hreads : ReadsTexts fits criteria l.records) {rows : List SpendRecord}
    (hrows : rows.Perm l.records) :
    l.searchBy fits criteria = .ok (criteria.query.apply rows) := by
  -- The last key tells all spends apart, so that the result does not depend on their order.
  rw [criteria.apply_perm hrows ((hrows.map _).nodup_iff.mpr (nodup_records h))]
  exact searchBy_eq_apply hsearchable (fun _ => precision_of_mem_records h) hreads

/-- After every run of a new ledger, and for every database that reads patterns as documented: a
search looks at all stored spends, and what it finds is what its query accepts of them, in the order
of the query, in whatever order they are given to it. A bound that is too precise is refused as such
if the refusal can show it. -/
theorem searchBy_run (currency : Currency) (operations : List Operation) (criteria : Criteria)
    {fits : Matcher} (hfits : fits.IsDocumented) :
    let l := (Ledger.empty currency).run operations
    l.records.map some = l.spends.map l.recordOf? ∧
      (TextsAre (· ≠ '\x00') l criteria → Searchable l.precision criteria →
        ∀ rows, rows.Perm l.records →
          l.searchBy fits criteria = .ok (criteria.query.apply rows)) ∧
      (TooPrecise l.precision criteria →
        ∃ m, (criteria.minCost = some m ∨ criteria.maxCost = some m) ∧
          l.searchBy fits criteria =
            .error (if m.hasText = true then .rejected (.tooPrecise m l.precision)
              else .longNumeral)) := by
  intro l
  have h : Integrity l := (Integrity.empty currency).run operations
  refine ⟨records_eq h, ?_, fun hprecise => ?_⟩
  · intro htexts hsearchable rows hrows
    have hlowered (c : Char) (hc : Text.Case.IsLowered c.toNat) : c ≠ '\x00' := by
      rintro rfl
      exact absurd hc.1 (by decide)
    exact searchBy_eq_apply_perm h hsearchable
      (htexts.readsTexts h hlowered (by decide) (by decide) hfits) hrows
  · obtain ⟨m, hm, hrefused⟩ := searchBy_tooPrecise hprecise
    have hdigits : Text.hasNumeral l.precision = true := l.currency.hasNumeral_precision
    refine ⟨m, hm, ?_⟩
    rw [hrefused, Failure.ofRejection_tooPrecise]
    simp only [hdigits, and_true]

/-- Spends whose titles differ in characters with a meaning in a pattern, two of one price. -/
def similarTitles : List Operation :=
  [⟨.openMonth 2024 2⟩, ⟨.addSpend ⟨3, "a_b", ⟨250, 2⟩, 0, "", .positive⟩⟩,
    ⟨.addSpend ⟨3, "axb", ⟨300, 2⟩, 0, "", .positive⟩⟩,
    ⟨.addSpend ⟨1, "5% of A_B", ⟨250, 2⟩, 0, "paid", .positive⟩⟩,
    ⟨.addSpend ⟨2, "a_b", ⟨20, 2⟩, 0, "", .positive⟩⟩]

/-- The untyped spends from a price on with an underscore in the title, the most expensive first. -/
def underscored (bound : Money) : Criteria :=
  { Criteria.all with
    title := "a_b", minCost := some bound, typeIds := [0], sortKey := .cost, descending := true }

theorem searchBy_similarTitles :
    let l := (Ledger.empty .gbp).run similarTitles
    l.searchBy plainMatch (underscored ⟨5, 1⟩) =
        .ok (l.records.filter fun record => record.id ∈ [1, 3]) ∧
      l.searchBy plainMatch (underscored ⟨5, 3⟩) =
        .error (.rejected (.tooPrecise ⟨5, 3⟩ l.precision)) := by
  intro l
  have htexts : TextsAre (· ≠ '\x00') l (underscored ⟨5, 1⟩) :=
    ⟨by decide +kernel, by decide +kernel, by decide +kernel⟩
  have hlow : (Money.mk 5 1).HasUnits l.precision 50 := by
    decide +kernel
  have hsearchable : Searchable l.precision (underscored ⟨5, 1⟩) := by
    refine ⟨?_, nofun, by decide +kernel, by decide +kernel, by decide +kernel⟩
    rintro m ⟨⟩
    exact ⟨50, hlow, by decide⟩
  have hprecise : TooPrecise l.precision (underscored ⟨5, 3⟩) := by
    refine ⟨⟨5, 3⟩, .inl rfl, rfl, ?_⟩
    intro units hunits
    have hprecision : l.precision = 2 := by
      decide +kernel
    rw [hprecision] at hunits
    change 5 * 100 = units * 1000 at hunits
    omega
  have haccepted : l.records.filter (underscored ⟨5, 1⟩).query.accepts =
      l.records.filter fun record => record.id ∈ [1, 3] := by
    decide +kernel
  have hsorted : (underscored ⟨5, 1⟩).query.apply l.records =
      l.records.filter fun record => record.id ∈ [1, 3] := by
    rw [Query.apply, haccepted]
    apply List.mergeSort_of_pairwise
    decide +kernel
  obtain ⟨_, hfound, _⟩ :=
    searchBy_run .gbp similarTitles (underscored ⟨5, 1⟩) plainMatch_isDocumented
  obtain ⟨_, _, hrefused⟩ :=
    searchBy_run .gbp similarTitles (underscored ⟨5, 3⟩) plainMatch_isDocumented
  refine ⟨(hfound htexts hsearchable _ (.refl _)).trans (congrArg Except.ok hsorted), ?_⟩
  obtain ⟨m, ⟨⟨⟩⟩ | ⟨⟨⟩⟩, hm⟩ := hrefused hprecise
  have htext : (Money.mk 5 3).hasText = true := by
    decide +kernel
  exact hm.trans (congrArg _ (if_pos htext))

/-- A bound of a thousandth more than can be written is not refused as too precise. -/
theorem searchBy_longBound :
    let l := Ledger.empty .gbp
    let bound : Money := ⟨Number.tenPow 4303 + 1, 3⟩
    (∀ units, ¬ bound.HasUnits l.precision units) ∧
      l.searchBy plainMatch (underscored bound) = .error .longNumeral ∧
      l.searchBy plainMatch (underscored bound) ≠
        .error (.rejected (.tooPrecise bound l.precision)) := by
  intro l bound
  have hnone (units : ℤ) : ¬ bound.HasUnits l.precision units := by
    have hprecision : bound.precision = l.precision + 1 := rfl
    have hdigit : bound.amount % 10 = 1 := by decide +kernel
    rw [Money.hasUnits_of_ge hprecision]
    change ¬ bound.amount = units * 10
    omega
  have hzero : bound.isZero = false := by decide +kernel
  have hlong : ¬ bound.hasText = true := by decide +kernel
  have hprecise : TooPrecise l.precision (underscored bound) :=
    ⟨bound, .inl rfl, hzero, hnone⟩
  obtain ⟨m, ⟨⟨⟩⟩ | ⟨⟨⟩⟩, hm⟩ := @searchBy_tooPrecise plainMatch _ _ hprecise
  rw [hm, Failure.ofRejection_tooPrecise, if_neg fun h => hlong h.1]
  exact ⟨hnone, rfl, nofun⟩

/-- The database itself reads texts as documented if none of their characters is a NUL or one of
those that it takes for another. -/
theorem search_eq_apply {l : Ledger} {criteria : Criteria} (h : Integrity l)
    (htexts : TextsAre (fun c => c ≠ '\x00' ∧ comparedChar c = c) l criteria)
    (hsearchable : Searchable l.precision criteria) {rows : List SpendRecord}
    (hrows : rows.Perm l.records) : l.search criteria = .ok (criteria.query.apply rows) := by
  have hlowered (c : Char) (hc : Text.Case.IsLowered c.toNat) :
      c ≠ '\x00' ∧ comparedChar c = c := by
    refine ⟨?_, if_neg (not_or.mpr ⟨hc.2.2.1, hc.2.2.2⟩)⟩
    rintro rfl
    exact absurd hc.1 (by decide)
  exact searchBy_eq_apply_perm h hsearchable
    (htexts.readsTexts h hlowered (by decide) (by decide) fun _ _ => matchesLike_reads) hrows

end Allowance.Ledger
