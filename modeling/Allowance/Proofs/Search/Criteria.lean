import Allowance.Proofs.Money.Arithmetic
import Allowance.Proofs.Search.Exact
import Allowance.Proofs.Statistics.ByDay

/-!
# What criteria ask of a spend

Every condition that is set has to be met, and one that is not set asks for nothing: texts contain
the searched ones without regard to case, the date lies within a period of the calendar, the cost
within bounds by its value, and the type is among those given.
-/

namespace Allowance.Search

open Statistics (IsOn)

/-- What criteria ask of a spend of a date. A text, a date, an amount and a list of types that are
not given ask for nothing, nor does an amount of zero; whoever asks for spends without a type does
not ask for types. -/
structure Criteria.IsMetBy (criteria : Criteria) (row : SpendRecord) (date : Date) : Prop where
  title : criteria.title ≠ "" →
    (Text.lower criteria.title).toList <:+: (Text.lower row.title).toList
  notes : criteria.notes ≠ "" →
    (Text.lower criteria.notes).toList <:+: (Text.lower row.notes).toList
  after : ∀ first, criteria.after = some first → ¬ date.Precedes first
  before : ∀ last, criteria.before = some last → ¬ last.Precedes date
  minCost : ∀ low, criteria.minCost = some low → low.value ≠ 0 → low.value ≤ row.cost.value
  maxCost : ∀ high, criteria.maxCost = some high → high.value ≠ 0 → row.cost.value ≤ high.value
  untyped : criteria.withoutType = true → row.typeId = SpendType.noType
  typed : criteria.withoutType = false → criteria.typeIds ≠ [] → row.typeId ∈ criteria.typeIds

/-! ## One filter after another -/

variable {row : SpendRecord}

theorem mem_filters {criteria : Criteria} {filter : Filter} :
    filter ∈ criteria.query.filters ↔
      textFilter .title criteria.titleExactly criteria.title = some filter ∨
      textFilter .notes criteria.notesExactly criteria.notes = some filter ∨
      dateFilter criteria.after criteria.before = some filter ∨
      costFilter criteria.minCost criteria.maxCost = some filter ∨
      typeFilter criteria.withoutType criteria.typeIds = some filter := by
  simp [Criteria.query, eq_comm]

theorem textFilter_eq_some {field : TextField} {exactly : Bool} {text : String} {filter : Filter}
    (hfilter : textFilter field exactly text = some filter) :
    filter = .like field (patternOf exactly (Text.lower text)) := by
  unfold textFilter at hfilter
  split at hfilter
  · cases hfilter
  · exact (Option.some.inj hfilter).symm

theorem accepts_iff {criteria : Criteria} : criteria.query.accepts row = true ↔
    (textFilter .title criteria.titleExactly criteria.title).all (·.holds row) = true ∧
      (textFilter .notes criteria.notesExactly criteria.notes).all (·.holds row) = true ∧
      (dateFilter criteria.after criteria.before).all (·.holds row) = true ∧
      (costFilter criteria.minCost criteria.maxCost).all (·.holds row) = true ∧
      (typeFilter criteria.withoutType criteria.typeIds).all (·.holds row) = true := by
  rw [Query.accepts, List.all_eq_true]
  simp only [mem_filters, or_imp, forall_and, Option.all_eq_true]

theorem all_holds_textFilter {field : TextField} {text : String}
    (hplain : wildcard ∉ text.toList) :
    (textFilter field false text).all (·.holds row) = true ↔
      (text ≠ "" → (Text.lower text).toList <:+: (Text.lower (field.read row)).toList) := by
  unfold textFilter
  split
  next hempty => simpa using fun hne => absurd (String.isEmpty_iff.mp hempty) hne
  next hempty =>
    have hne : text ≠ "" := mt String.isEmpty_iff.mpr hempty
    rw [Option.all_some, Filter.holds, matchesPattern_iff, toList_patternOf,
      expands_between (mt wildcard_mem_lower.mp hplain)]
    simp [hne]

theorem all_holds_dateFilter {after before : Option Date} {date : Date} (hdate : IsOn row date) :
    (dateFilter after before).all (·.holds row) = true ↔
      (∀ first, after = some first → ¬ date.Precedes first) ∧
        ∀ last, before = some last → ¬ last.Precedes date := by
  simp only [← Date.key_lt_iff, not_lt]
  cases after <;> cases before <;>
    simp [dateFilter, Filter.holds, hdate.dateKey_eq]

theorem all_holds_costFilter {low high : Option Money} :
    (costFilter low high).all (·.holds row) = true ↔
      (∀ bound, low = some bound → bound.value ≠ 0 → bound.value ≤ row.cost.value) ∧
        ∀ bound, high = some bound → bound.value ≠ 0 → row.cost.value ≤ bound.value := by
  have hless (a b : Money) : (!a.less b) = true ↔ b.value ≤ a.value := by
    rw [Bool.not_eq_true', ← Bool.not_eq_true, Money.less_iff, not_lt]
  have hzero (m : Money) : (!m.isZero) = true ↔ m.value ≠ 0 := by
    rw [Bool.not_eq_true', ← Bool.not_eq_true, Money.isZero_iff]
  have hholds : (costFilter low high).all (·.holds row) =
      Filter.holds row (.costs (low.filter (!·.isZero)) (high.filter (!·.isZero))) := by
    unfold costFilter
    dsimp only
    split
    next hnone =>
      rw [Bool.and_eq_true, Option.isNone_iff_eq_none, Option.isNone_iff_eq_none] at hnone
      rw [hnone.1, hnone.2]
      rfl
    next => rfl
  rw [hholds, Filter.holds, Bool.and_eq_true, Option.all_eq_true, Option.all_eq_true]
  simp only [Option.filter_eq_some_iff, hless, hzero, and_imp]

/-- A list of types asks for one of them, also where zero in it stands for no type. -/
theorem holds_types {ids : List Int} :
    Filter.holds row (.types (ids.filter (· != SpendType.noType)).eraseDups
      (ids.contains SpendType.noType)) = true ↔ row.typeId ∈ ids := by
  by_cases hid : row.typeId = SpendType.noType
  · simp [Filter.holds, hid]
  · simp [Filter.holds, hid]

theorem all_holds_typeFilter {withoutType : Bool} {ids : List Int} :
    (typeFilter withoutType ids).all (·.holds row) = true ↔
      (withoutType = true → row.typeId = SpendType.noType) ∧
        (withoutType = false → ids ≠ [] → row.typeId ∈ ids) := by
  unfold typeFilter
  split
  next huntyped => simp [huntyped, Filter.holds]
  next htyped =>
    split
    next hnone => simp [htyped, List.isEmpty_iff.mp hnone]
    next hsome =>
      rw [Option.all_some, holds_types]
      simp [htyped, mt List.isEmpty_iff.mpr hsome]

/-! ## All of them -/

/-- A search for pieces of texts that have no percent sign accepts exactly the spends that meet its
criteria. -/
theorem accepts_iff_isMetBy {criteria : Criteria} (htitle : criteria.titleExactly = false)
    (hnotes : criteria.notesExactly = false) (hplainTitle : wildcard ∉ criteria.title.toList)
    (hplainNotes : wildcard ∉ criteria.notes.toList) {row : SpendRecord} {date : Date}
    (hdate : IsOn row date) : criteria.query.accepts row = true ↔ criteria.IsMetBy row date := by
  rw [accepts_iff, htitle, hnotes, all_holds_textFilter hplainTitle,
    all_holds_textFilter hplainNotes, all_holds_dateFilter hdate, all_holds_costFilter,
    all_holds_typeFilter]
  constructor
  · rintro ⟨hinTitle, hinNotes, ⟨hafter, hbefore⟩, ⟨hlow, hhigh⟩, huntyped, htyped⟩
    exact ⟨hinTitle, hinNotes, hafter, hbefore, hlow, hhigh, huntyped, htyped⟩
  · intro h
    exact ⟨h.title, h.notes, ⟨h.after, h.before⟩, ⟨h.minCost, h.maxCost⟩, h.untyped, h.typed⟩

/-- Refunds of at least half a unit around the end of a February, untyped or of one type, by words
in capitals and signs that only the store takes for special ones. -/
def lateFebruary : Criteria :=
  { Criteria.all with
    title := "ΟΔΌΣ", notes := "_\\", after := some ⟨2024, 2, 28, by decide⟩,
    before := some ⟨2024, 3, 2, by decide⟩, minCost := some ⟨0, 5⟩, maxCost := some ⟨-5, 1⟩,
    typeIds := [0, 4, 4] }

theorem isMetBy_lateFebruary :
    let row : SpendRecord := ⟨7, 2024, 2, 29, "Μεγάλη οδός", ⟨-500, 3⟩, 0, "a_\\b"⟩
    let date : Date := ⟨2024, 2, 29, by decide⟩
    wildcard ∉ lateFebruary.title.toList ∧ wildcard ∉ lateFebruary.notes.toList ∧
      IsOn row date ∧ lateFebruary.IsMetBy row date ∧
        ¬ lateFebruary.IsMetBy { row with typeId := 5 } date := by
  intro row date
  have htitle : wildcard ∉ lateFebruary.title.toList := by decide
  have hnotes : wildcard ∉ lateFebruary.notes.toList := by decide
  have hdate : IsOn row date := ⟨rfl, rfl, rfl⟩
  refine ⟨htitle, hnotes, hdate, ?_, ?_⟩
  · exact (accepts_iff_isMetBy rfl rfl htitle hnotes hdate).mp (by decide +kernel)
  · rw [← accepts_iff_isMetBy rfl rfl htitle hnotes ⟨rfl, rfl, rfl⟩]
    decide +kernel

end Allowance.Search
