import Allowance.Ledger.Search
import Allowance.Proofs.Ledger.Integrity
import Allowance.Proofs.Money.Units
import Allowance.Proofs.Search.Criteria
import Allowance.Proofs.Search.Like
import Allowance.Proofs.Search.Order
import Allowance.Proofs.Search.Select
import Allowance.Proofs.Text.Case

/-!
# Filters as clauses

Each filter of a search is rendered as a clause that is met by a stored spend exactly when the
filter holds for it, and whose parameters can be stored.
-/

namespace Allowance.Ledger

open Search Outcome

variable {fits : Matcher} {precision : Nat} {records : List SpendRecord}

/-- A filter becomes a clause that selects the same spends, and whose parameters can be stored. -/
structure Renders (fits : Matcher) (precision : Nat) (records : List SpendRecord) (filter : Filter)
    (clause : Clause) : Prop where
  clause_eq : filter.clause precision = .ok clause
  storable : ∀ cell ∈ clause.parameters, requireCell cell = .ok ()
  isMet : ∀ record ∈ records, clause.isMet fits (storedRow record) = filter.holds record

theorem isMet_singleton {bracketed : Bool} {condition : Condition} {row : Row} {known : Bool}
    (hholds : condition.holds? fits row = some known) :
    (Clause.mk bracketed [condition]).isMet fits row = known := by
  rw [Bool.eq_iff_iff, Clause.isMet_iff]
  simp [hholds]

theorem requireCell_integer {i : Int} (h : IsStorable i) : requireCell (.integer i) = .ok () :=
  requireStorable_eq_ok.mpr h

/-! ## Texts -/

/-- Absent notes are read as empty. -/
theorem value_lowered (record : SpendRecord) (field : TextField) :
    (Term.lowered field.field).value (storedRow record) =
      .text (Text.lower (field.read record)) := by
  cases field with
  | title => rfl
  | notes =>
      change Term.lower (if record.notes.isEmpty then .null else .text record.notes) =
        .text (Text.lower record.notes)
      split
      next hempty =>
        rw [String.isEmpty_iff.mp hempty]
        rfl
      next => rfl

theorem renders_like {field : TextField} {pattern : String}
    (hpattern : ∀ c ∈ pattern.toList, c.toLower = c)
    (hreads : ∀ record ∈ records,
      fits.Reads (escapePattern pattern) (Text.lower (field.read record))) :
    Renders fits precision records (.like field pattern)
      ⟨false, [.like (.lowered field.field) (.text (escapePattern pattern))]⟩ where
  clause_eq := rfl
  storable := by
    intro cell hcell
    obtain rfl : cell = .text (escapePattern pattern) := by
      simpa [Clause.parameters, Condition.parameters] using hcell
    rfl
  isMet := by
    intro record hrecord
    apply isMet_singleton
    have hmatch := (hreads record hrecord).eq_matchesPattern hpattern
      fun _ hc => Text.toLower_of_mem_lower hc
    rw [Condition.holds?, value_lowered, like?, hmatch]
    rfl

/-! ## Bounds -/

theorem renders_dates {after before : Option Int} (hgiven : after.isSome ∨ before.isSome)
    (hstorable : ∀ bound, after = some bound ∨ before = some bound → IsStorable bound) :
    Renders fits precision records (.dates after before)
      ⟨false, [boundsOf .dateKey after before]⟩ where
  clause_eq := rfl
  storable := by
    intro cell hcell
    have hcell : cell ∈ (boundsOf .dateKey after before).parameters := by
      simpa [Clause.parameters] using hcell
    obtain ⟨bound, hbound, rfl⟩ := parameters_boundsOf hgiven hcell
    exact requireCell_integer (hstorable bound hbound)
  isMet := by
    intro record _
    exact isMet_singleton (holds?_boundsOf rfl hgiven)

/-- The minor units of a bound that may be missing. -/
inductive BoundHasUnits (precision : Nat) : Option Money → Option Int → Prop where
  | absent : BoundHasUnits precision none none
  | given {bound : Money} {units : Int} (hunits : bound.HasUnits precision units)
      (hstorable : IsStorable units) : BoundHasUnits precision (some bound) (some units)

namespace BoundHasUnits

variable {bound : Option Money} {units : Option Int}

theorem boundUnits_eq (h : BoundHasUnits precision bound units) :
    boundUnits precision bound = .ok units := by
  cases h with
  | absent => rfl
  | given hunits _ => rw [boundUnits, Money.minorUnits_eq_ok.mpr hunits]; rfl

theorem isSome_eq (h : BoundHasUnits precision bound units) : units.isSome = bound.isSome := by
  cases h <;> rfl

theorem isStorable (h : BoundHasUnits precision bound units) {u : Int} (hu : units = some u) :
    IsStorable u := by
  cases h with
  | absent => cases hu
  | given _ hstorable => exact Option.some.inj hu ▸ hstorable

theorem all_le (h : BoundHasUnits precision bound units) (amount : Int) :
    units.all (· ≤ amount) = bound.all fun m => !Money.less ⟨amount, precision⟩ m := by
  cases h with
  | absent => rfl
  | given hunits _ =>
      simp only [Option.all_some, Money.less_of_hasUnits hunits]
      rw [Bool.eq_iff_iff]
      simp

theorem le_all (h : BoundHasUnits precision bound units) (amount : Int) :
    units.all (amount ≤ ·) = bound.all fun m => !Money.less m ⟨amount, precision⟩ := by
  cases h with
  | absent => rfl
  | given hunits _ =>
      simp only [Option.all_some, Money.hasUnits_less hunits]
      rw [Bool.eq_iff_iff]
      simp

end BoundHasUnits

theorem renders_costs {low high : Option Money} {lowUnits highUnits : Option Int}
    (hlow : BoundHasUnits precision low lowUnits) (hhigh : BoundHasUnits precision high highUnits)
    (hgiven : low.isSome ∨ high.isSome)
    (hprecision : ∀ record ∈ records, record.cost.precision = precision) :
    Renders fits precision records (.costs low high)
      ⟨false, [boundsOf (.column .cost) lowUnits highUnits]⟩ where
  clause_eq := by
    rw [Filter.clause, hlow.boundUnits_eq, hhigh.boundUnits_eq]
    rfl
  storable := by
    intro cell hcell
    have hcell : cell ∈ (boundsOf (.column .cost) lowUnits highUnits).parameters := by
      simpa [Clause.parameters] using hcell
    rw [← hlow.isSome_eq, ← hhigh.isSome_eq] at hgiven
    obtain ⟨bound, hbound, rfl⟩ := parameters_boundsOf hgiven hcell
    exact requireCell_integer (hbound.elim hlow.isStorable hhigh.isStorable)
  isMet := by
    intro record hrecord
    rw [← hlow.isSome_eq, ← hhigh.isSome_eq] at hgiven
    have hcost : record.cost = ⟨record.cost.amount, precision⟩ := by
      rw [← hprecision record hrecord]
    rw [isMet_singleton (holds?_boundsOf rfl hgiven), hlow.all_le, hhigh.le_all, ← hcost]
    rfl

/-! ## Types -/

/-- The clause of a filter by type. -/
def typeClause (ids : List Int) (untyped : Bool) : Clause :=
  ⟨true, (if untyped then [Condition.isNull (.column .typeId)] else []) ++
    if ids.isEmpty then [] else [.isIn (.column .typeId) (ids.map .integer)]⟩

theorem isMet_isNull (record : SpendRecord) :
    (Condition.isNull (.column .typeId)).holds? fits (storedRow record) = some true ↔
      record.typeId = SpendType.noType := by
  change some ((if record.typeId = SpendType.noType then Cell.null
    else .integer record.typeId) == .null) = some true ↔ _
  split <;> simp_all

theorem isMet_isIn (record : SpendRecord) (ids : List Int) :
    (Condition.isIn (.column .typeId) (ids.map .integer)).holds? fits (storedRow record) =
        some true ↔ record.typeId ≠ SpendType.noType ∧ record.typeId ∈ ids := by
  have hvalue : (Term.column .typeId).value (storedRow record) =
      if record.typeId = SpendType.noType then .null else .integer record.typeId :=
    rfl
  rw [Condition.holds?, hvalue]
  by_cases hid : record.typeId = SpendType.noType
  · simp [hid]
  · simp [hid]

/-- No type is no number, so that a list of numbers does not select it. -/
theorem renders_types {ids : List Int} {untyped : Bool} (hstorable : ∀ id ∈ ids, IsStorable id) :
    Renders fits precision records (.types ids untyped) (typeClause ids untyped) where
  clause_eq := rfl
  storable := by
    intro cell hcell
    obtain ⟨condition, hcondition, hcell⟩ := List.mem_flatMap.mp hcell
    rcases List.mem_append.mp hcondition with hnull | hin
    · split at hnull
      · obtain rfl := List.mem_singleton.mp hnull
        cases hcell
      · cases hnull
    · split at hin
      · cases hin
      · obtain rfl := List.mem_singleton.mp hin
        obtain ⟨id, hid, rfl⟩ := List.mem_map.mp hcell
        exact requireCell_integer (hstorable id hid)
  isMet := by
    intro record _
    rw [Bool.eq_iff_iff, Clause.isMet_iff]
    have hfilter : (Filter.types ids untyped).holds record = true ↔
        untyped = true ∧ record.typeId = SpendType.noType ∨
          record.typeId ≠ SpendType.noType ∧ record.typeId ∈ ids := by
      simp [Filter.holds]
    rw [hfilter, typeClause]
    -- Each part of the clause stands for its part of the filter and is left out where that is void.
    simp only [List.mem_append, or_and_right, exists_or]
    apply or_congr
    · cases untyped with
      | false => simp
      | true => simpa using isMet_isNull record
    · cases ids with
      | nil => simp
      | cons id rest =>
          have hin := @isMet_isIn fits record (id :: rest)
          rw [← hin]
          simp

/-! ## Criteria -/

theorem mem_patternOf {exactly : Bool} {text : String} {c : Char}
    (hc : c ∈ (patternOf exactly text).toList) : c ∈ text.toList ∨ c = wildcard := by
  cases exactly with
  | true => exact .inl hc
  | false =>
      have hwildcard : wildcard.toString.toList = [wildcard] := rfl
      simp only [patternOf, Bool.false_eq_true, if_false, String.toList_append, hwildcard,
        List.mem_append, List.mem_singleton] at hc
      tauto

theorem exists_renders_text {field : TextField} {exactly : Bool} {text : String} {filter : Filter}
    (hfilter : textFilter field exactly text = some filter)
    (hreads : ∀ record ∈ records,
      fits.Reads (escapePattern (patternOf exactly (Text.lower text)))
        (Text.lower (field.read record))) :
    ∃ clause, Renders fits precision records filter clause := by
  obtain rfl := textFilter_eq_some hfilter
  refine ⟨_, renders_like ?_ hreads⟩
  intro c hc
  rcases mem_patternOf hc with hmem | rfl
  · exact Text.toLower_of_mem_lower hmem
  · rfl

theorem isStorable_key (date : Date) : IsStorable date.key := by
  obtain ⟨year, month, day, hdate⟩ := date
  obtain ⟨_, hyear, _, hmonth, _, hday⟩ := hdate
  have hlength := Calendar.monthLength_bounds year month
  have hlast : year ≤ 9999 := hyear
  simp only [IsStorable, storageLimit, Date.key]
  omega

theorem exists_renders_dates {after before : Option Date} {filter : Filter}
    (hfilter : dateFilter after before = some filter) :
    ∃ clause, Renders fits precision records filter clause := by
  unfold dateFilter at hfilter
  split at hfilter
  next => cases hfilter
  next hgiven =>
    obtain rfl := Option.some.inj hfilter
    refine ⟨_, renders_dates ?_ ?_⟩
    · cases after <;> cases before <;> simp_all
    · intro bound hbound
      simp only [Option.map_eq_some_iff] at hbound
      rcases hbound with ⟨date, _, rfl⟩ | ⟨date, _, rfl⟩
      · exact isStorable_key date
      · exact isStorable_key date

theorem exists_boundHasUnits {bound : Option Money}
    (hunits : ∀ m, bound = some m → ∃ units, m.HasUnits precision units ∧ IsStorable units) :
    ∃ units, BoundHasUnits precision (bound.filter (!·.isZero)) units := by
  cases bound with
  | none => exact ⟨none, .absent⟩
  | some m =>
      obtain ⟨units, hm, hstorable⟩ := hunits m rfl
      rw [Option.filter_some]
      split
      · exact ⟨some units, .given hm hstorable⟩
      · exact ⟨none, .absent⟩

theorem exists_renders_costs {low high : Option Money} {filter : Filter}
    (hfilter : costFilter low high = some filter)
    (hlow : ∀ m, low = some m → ∃ units, m.HasUnits precision units ∧ IsStorable units)
    (hhigh : ∀ m, high = some m → ∃ units, m.HasUnits precision units ∧ IsStorable units)
    (hprecision : ∀ record ∈ records, record.cost.precision = precision) :
    ∃ clause, Renders fits precision records filter clause := by
  unfold costFilter at hfilter
  dsimp only at hfilter
  split at hfilter
  next => cases hfilter
  next hgiven =>
    obtain rfl := Option.some.inj hfilter
    obtain ⟨lowUnits, hlowUnits⟩ := exists_boundHasUnits hlow
    obtain ⟨highUnits, hhighUnits⟩ := exists_boundHasUnits hhigh
    refine ⟨_, renders_costs hlowUnits hhighUnits ?_ hprecision⟩
    simp only [Bool.and_eq_true, Option.isNone_iff_eq_none, not_and_or] at hgiven
    exact hgiven.imp Option.isSome_iff_ne_none.mpr Option.isSome_iff_ne_none.mpr

theorem exists_renders_types {withoutType : Bool} {ids : List Int} {filter : Filter}
    (hfilter : typeFilter withoutType ids = some filter)
    (hstorable : ∀ id ∈ ids, IsStorable id) :
    ∃ clause, Renders fits precision records filter clause := by
  unfold typeFilter at hfilter
  split at hfilter
  next =>
    obtain rfl := Option.some.inj hfilter
    exact ⟨_, renders_types (by simp)⟩
  next =>
    split at hfilter
    next => cases hfilter
    next =>
      obtain rfl := Option.some.inj hfilter
      refine ⟨_, renders_types fun id hid => ?_⟩
      rw [List.mem_eraseDups] at hid
      exact hstorable id (List.mem_filter.mp hid).1

end Allowance.Ledger
