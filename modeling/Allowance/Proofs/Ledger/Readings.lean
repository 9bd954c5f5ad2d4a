import Mathlib.Data.List.Forall2
import Allowance.Proofs.Calendar.Period
import Allowance.Proofs.Ledger.Consistency
import Allowance.Proofs.Ledger.Recomputation
import Allowance.Proofs.Ledger.Search
import Allowance.Proofs.Statistics.ByDay

/-!
# The readings of a ledger agree

The spends of a month can be read off the loaded month, found by a search over its dates, and
reported day by day. All three see the same spends under the same dates, so that the report of a
month has the amounts of its days, and these make up its total.
-/

namespace Allowance.Ledger

open Search Outcome Statistics

variable {l : Ledger}

/-- Lists with one image are paired item by item. -/
theorem forall₂_of_map_eq {α β γ : Type} {f : α → γ} {g : β → γ} {items : List α}
    {others : List β} (h : items.map f = others.map g) :
    List.Forall₂ (fun a b => (a ∈ items ∧ b ∈ others) ∧ f a = g b) items others := by
  have hpaired : List.Forall₂ (fun a b => f a = g b) items others := by
    refine List.forall₂_map_left_iff.mp (List.forall₂_map_right_iff.mp ?_)
    rw [h]
    exact List.forall₂_refl _
  exact List.forall₂_iff_zip.mpr ⟨hpaired.length_eq, fun hmem =>
    ⟨List.of_mem_zip hmem, List.forall₂_zip hpaired hmem⟩⟩

/-! ## Stored spends and found ones -/

/-- A stored spend is found under the date of its day. -/
def ShownAs (l : Ledger) (row : SpendRow) (record : SpendRecord) : Prop :=
  ∃ day ∈ l.days, ∃ month ∈ l.months, day.id = row.dayId ∧ month.id = day.monthId ∧
    record = ⟨row.id, month.year, month.month, day.day, row.title, l.money row.cost, row.typeId,
      row.notes⟩

theorem Integrity.shownAs (h : Integrity l) {row : SpendRow} {record : SpendRecord}
    (hrow : row ∈ l.spends) (hrecord : l.recordOf? row = some record) : l.ShownAs row record := by
  obtain ⟨day, hday, month, hmonth, hdayId, hmonthId, hdated⟩ := exists_recordOf? h hrow
  exact ⟨day, hday, month, hmonth, hdayId, hmonthId,
    Option.some.inj (hrecord.symm.trans hdated)⟩

theorem Integrity.forall₂_shownAs (h : Integrity l) :
    List.Forall₂ l.ShownAs l.spends l.records :=
  (forall₂_of_map_eq (records_eq h).symm).imp fun _ _ ⟨⟨hrow, _⟩, hrecord⟩ =>
    h.shownAs hrow hrecord

/-- Spends that are filtered before and after they are found have the same amounts. -/
theorem map_filter_of_shownAs {rows : List SpendRow} {records : List SpendRecord}
    (h : List.Forall₂ l.ShownAs rows records) (wanted : SpendRow → Bool)
    {found : SpendRecord → Bool}
    (hsame : ∀ row record, l.ShownAs row record → (found record = true ↔ wanted row = true)) :
    (records.filter found).map (·.cost) =
      (rows.filter wanted).map fun row => l.money row.cost := by
  induction h with
  | nil => rfl
  | @cons row record _ _ hshown _ ih =>
      have hiff := hsame row record hshown
      obtain ⟨_, _, _, _, _, _, rfl⟩ := hshown
      by_cases hwanted : wanted row = true
      · rw [List.filter_cons_of_pos (hiff.mpr hwanted), List.filter_cons_of_pos hwanted,
          List.map_cons, List.map_cons, ih]
      · rw [List.filter_cons_of_neg (mt hiff.mp hwanted), List.filter_cons_of_neg hwanted, ih]

/-! ## Searching a period -/

/-- The search for all spends of a period, of which either end may be open. -/
def within (after before : Option Date) : Criteria :=
  { Criteria.all with after, before }

theorem filters_within (after before : Option Date) :
    (within after before).query.filters = (dateFilter after before).toList := by
  cases hfilter : dateFilter after before <;>
    simp [Criteria.query, within, Criteria.all, textFilter, costFilter, typeFilter, hfilter]

/-- A search for a period has one condition, on two dates, if it has any. -/
theorem clauses_within {after before : Option Date} {precision : Int} {select : Select}
    (hselect : (within after before).query.select precision = .ok select) :
    select.clauses = [] ∨ ∃ low high, select.clauses = [⟨false, [boundsOf .dateKey low high]⟩] := by
  obtain ⟨clauses, hclauses, hend⟩ := bind_eq_ok.mp hselect
  cases hend
  rw [filters_within] at hclauses
  unfold dateFilter at hclauses
  split at hclauses <;> cases hclauses
  · exact .inl rfl
  · exact .inr ⟨_, _, rfl⟩

theorem parameters_dates_length (low high : Option Int) :
    (boundsOf .dateKey low high).parameters.length ≤ 2 := by
  cases low <;> cases high <;> simp [boundsOf, Condition.parameters]

theorem isTooComplex_dates (low high : Option Int) :
    (boundsOf .dateKey low high).isTooComplex = false := by
  cases low <;> cases high <;> rfl

theorem search_within (h : Integrity l) (after before : Option Date) :
    l.search (within after before) = .ok ((within after before).query.apply l.records) := by
  apply searchBy_eq_apply_of_renders
  · rw [filters_within]
    intro filter hfilter
    exact exists_renders_dates (Option.mem_toList.mp hfilter)
  · intro select hselect
    rcases clauses_within hselect with hnone | ⟨low, high, hone⟩
    · rw [Select.parameters, hnone]
      exact Nat.zero_le _
    · have hlength := parameters_dates_length low high
      rw [Select.parameters, hone]
      simp only [List.flatMap_cons, List.flatMap_nil, List.append_nil, Clause.parameters]
      exact hlength.trans (by decide)
  · intro select hselect clause hclause condition hcondition
    rcases clauses_within hselect with hnone | ⟨low, high, hone⟩
    · rw [hnone] at hclause
      cases hclause
    · rw [hone, List.mem_singleton] at hclause
      subst hclause
      rw [List.mem_singleton] at hcondition
      rw [hcondition, isTooComplex_dates]
  · exact fun _ => precision_of_mem_records h

/-! ## The order of found spends -/

/-- One spend stands before another: by date, and on one day by number. -/
def Precedes (a b : SpendRecord) : Prop :=
  a.year < b.year ∨ a.year = b.year ∧ (a.month < b.month ∨ a.month = b.month ∧
    (a.day < b.day ∨ a.day = b.day ∧ a.id < b.id))

theorem isLE_compareOfLessAndEq_then {i j : Int} {rest : Ordering} :
    ((compareOfLessAndEq i j).then rest).isLE = true ↔ i < j ∨ i = j ∧ rest.isLE = true := by
  unfold compareOfLessAndEq
  split
  next hlt => simp [hlt]
  next hnot =>
    split
    next heq => simp [heq]
    next hne => simp [hnot, hne]

/-- Spends in the order of a search stand strictly one before the other. -/
theorem precedes_of_isLE {after before : Option Date} {a b : SpendRecord}
    (hle : ((within after before).query.compare a b).isLE) (hne : a.id ≠ b.id) :
    Precedes a b := by
  have hkeys : (within after before).query.compare a b =
      (compareOfLessAndEq a.year b.year).then ((compareOfLessAndEq a.month b.month).then
        ((compareOfLessAndEq a.day b.day).then ((compareOfLessAndEq a.id b.id).then .eq))) := by
    change compareBy [⟨.year, false⟩, ⟨.month, false⟩, ⟨.day, false⟩, ⟨.id, false⟩] a b = _
    simp only [compareBy_cons]
    rfl
  simp only [hkeys, isLE_compareOfLessAndEq_then] at hle
  unfold Precedes
  omega

theorem pairwise_precedes (h : Integrity l) (after before : Option Date) :
    ((within after before).query.apply l.records).Pairwise Precedes := by
  have hnodup : (((within after before).query.apply l.records).map (·.id)).Nodup := by
    have hfound := List.mergeSort_perm (l.records.filter (within after before).query.accepts)
      fun a b => (within after before).query.compare a b != .gt
    exact (hfound.map (·.id)).nodup_iff.mpr
      ((nodup_records h).sublist (List.filter_sublist.map _))
  exact ((within after before).query.pairwise_apply l.records).imp₂
    (fun _ _ => precedes_of_isLE) (List.pairwise_map.mp hnodup)

/-- A search without a bound finds every spend once. -/
theorem apply_within_perm (l : Ledger) :
    ((within none none).query.apply l.records).Perm l.records := by
  have hall : (within none none).query.accepts = fun _ => true := by
    funext row
    rw [Query.accepts, filters_within]
    rfl
  rw [Query.apply, hall, List.filter_true]
  exact List.mergeSort_perm _ _

/-! ## The dates of a month -/

/-- Two dates are the first and the last day of a month. -/
def MonthRow.Spans (row : MonthRow) (first last : Date) : Prop :=
  (first.year = row.year ∧ first.month = row.month ∧ first.day = 1) ∧
    last.year = row.year ∧ last.month = row.month ∧ last.day = row.length

theorem FollowsCalendar.exists_spans {row : MonthRow} (h : l.FollowsCalendar row) :
    ∃ first last, row.Spans first last := by
  obtain ⟨⟨hyear, hlast⟩, hmonth, hdecember⟩ := h.bounds
  have hlength := row.length_pos
  have hdate {day : Nat} (hday : 1 ≤ day) (hend : day ≤ row.length) :
      Calendar.IsDate row.year.toNat row.month.toNat day :=
    ⟨by omega, by simp only [Calendar.lastYear]; omega, by omega, by omega, hday, hend⟩
  refine ⟨⟨row.year.toNat, row.month.toNat, 1, hdate le_rfl hlength⟩,
    ⟨row.year.toNat, row.month.toNat, row.length, hdate hlength le_rfl⟩, ⟨?_, ?_, rfl⟩, ?_, ?_, rfl⟩
  all_goals
    dsimp only
    omega

variable {row : MonthRow} {first last : Date}

/-- The days between the first and the last one are the days of the month in order. -/
theorem MonthRow.Spans.upTo_eq (hspans : row.Spans first last) :
    (first.upTo last).map (fun day => ((day.year : Int), (day.month : Int), day.day)) =
      (List.range row.length).map fun i => (row.year, row.month, i + 1) := by
  obtain ⟨⟨hyear, hmonth, hfirst⟩, hlastYear, hlastMonth, hlast⟩ := hspans
  have hlength := row.length_pos
  have hsameYear : last.year = first.year := by omega
  have hsameMonth : last.month = first.month := by omega
  have hordered : first.day ≤ last.day := by omega
  have hdays := Date.upTo_eq hsameYear hsameMonth hordered
  have hcast := congrArg (List.map fun (fields : Nat × Nat × Nat) =>
    ((fields.1 : Int), (fields.2.1 : Int), fields.2.2)) hdays
  rw [List.map_map, List.map_map, hfirst, hlast, Nat.add_sub_cancel] at hcast
  rw [← hyear, ← hmonth]
  refine hcast.trans (List.map_congr_left fun i _ => ?_)
  rw [Function.comp_apply, Nat.add_comm]

theorem MonthRow.Spans.exists_mem_upTo (hspans : row.Spans first last) {number : Nat}
    (hfirst : 1 ≤ number) (hlast : number ≤ row.length) :
    ∃ date ∈ first.upTo last, date.year = row.year ∧ date.month = row.month ∧
      date.day = number := by
  have hmem : (row.year, row.month, number) ∈
      (first.upTo last).map fun day => ((day.year : Int), (day.month : Int), day.day) := by
    rw [hspans.upTo_eq]
    exact List.mem_map.mpr ⟨number - 1, List.mem_range.mpr (by omega), by
      rw [Nat.sub_add_cancel hfirst]⟩
  obtain ⟨date, hdate, hfields⟩ := List.mem_map.mp hmem
  simp only [Prod.mk.injEq] at hfields
  exact ⟨date, hdate, hfields⟩

theorem MonthRow.Spans.fields_of_mem (hspans : row.Spans first last) {date : Date}
    (hdate : date ∈ first.upTo last) : date.year = row.year ∧ date.month = row.month := by
  have hmem := List.mem_map_of_mem (f := fun day : Date =>
    ((day.year : Int), (day.month : Int), day.day)) hdate
  rw [hspans.upTo_eq] at hmem
  obtain ⟨_, _, hfields⟩ := List.mem_map.mp hmem
  simp only [Prod.mk.injEq] at hfields
  exact ⟨hfields.1.symm, hfields.2.1.symm⟩

theorem MonthRow.Spans.pairwise_upTo (hspans : row.Spans first last) :
    (first.upTo last).Pairwise fun a b => a.key < b.key := by
  have hdays : ((first.upTo last).map (·.day)).Pairwise (· < ·) := by
    have hfields := congrArg (List.map fun fields => fields.2.2) hspans.upTo_eq
    rw [List.map_map, List.map_map] at hfields
    exact hfields ▸ List.pairwise_lt_range.map _ fun i j hij => Nat.succ_lt_succ hij
  refine (List.pairwise_map.mp hdays).imp_of_mem ?_
  intro a b ha hb hlt
  have hyears := hspans.fields_of_mem ha
  have hmonths := hspans.fields_of_mem hb
  unfold Date.key
  omega

/-! ## The spends of a month -/

theorem FollowsCalendar.day_bounds (h : l.FollowsCalendar row) {day : DayRow}
    (hday : day ∈ l.daysOf row.id) : 1 ≤ day.day ∧ day.day ≤ row.length := by
  have hmem : day.day ∈ (l.daysOf row.id).map (·.day) := List.mem_map_of_mem hday
  rw [h.2] at hmem
  obtain ⟨i, hi, hnumber⟩ := List.mem_map.mp hmem
  have := List.mem_range.mp hi
  omega

/-- A found spend lies on a day of a month, and its date is theirs. -/
theorem Integrity.exists_day (h : Integrity l) {spend : SpendRow} {record : SpendRecord}
    (hshown : l.ShownAs spend record) :
    ∃ month ∈ l.months, ∃ day ∈ l.daysOf month.id, day.id = spend.dayId ∧
      (record.year = month.year ∧ record.month = month.month ∧ record.day = day.day) ∧
      (1 ≤ record.month ∧ record.month ≤ 12) ∧ 1 ≤ record.day ∧ record.day ≤ month.length := by
  obtain ⟨day, hday, month, hmonth, hdayId, hmonthId, rfl⟩ := hshown
  have hmem : day ∈ l.daysOf month.id := mem_daysOf.mpr ⟨hday, hmonthId.symm⟩
  have hcalendar := h.calendar month hmonth
  exact ⟨month, hmonth, day, hmem, hdayId, ⟨rfl, rfl, rfl⟩, hcalendar.bounds.2,
    hcalendar.day_bounds hmem⟩

theorem Integrity.month_eq_of_date (h : Integrity l) {other : MonthRow} (hrow : row ∈ l.months)
    (hother : other ∈ l.months) (hyear : other.year = row.year) (hmonth : other.month = row.month) :
    other = row :=
  List.inj_on_of_nodup_map h.distinct hother hrow (Prod.ext hyear hmonth)

theorem MonthRow.length_le (row : MonthRow) : row.length ≤ 31 :=
  (Calendar.monthLength_bounds _ _).2

/-- The key of a found spend is the key of a date exactly when the spend lies on the day of the
date. -/
theorem Integrity.dateKey_eq_iff (h : Integrity l) (hrow : row ∈ l.months) {spend : SpendRow}
    {record : SpendRecord} (hshown : l.ShownAs spend record) {date : Date}
    (hyear : date.year = row.year) (hmonth : date.month = row.month) {day : DayRow}
    (hday : day ∈ l.daysOf row.id) (hnumber : day.day = date.day) :
    record.dateKey = date.key ↔ spend.dayId = day.id := by
  obtain ⟨month, hmem, own, hown, hdayId, ⟨hrecordYear, hrecordMonth, hrecordDay⟩, hbounds, hfirst,
    hlast⟩ := h.exists_day hshown
  have hlength := month.length_le
  rw [← isOn_iff_dateKey hbounds ⟨hfirst, by omega⟩, ← hdayId]
  constructor
  · rintro ⟨hsameYear, hsameMonth, hsameDay⟩
    obtain rfl := h.month_eq_of_date hrow hmem (by omega) (by omega)
    rw [(h.calendar month hmem).day_inj hown hday (by omega)]
  · intro hid
    obtain ⟨hownMem, hownMonth⟩ := mem_daysOf.mp hown
    obtain ⟨hdayMem, hdayMonth⟩ := mem_daysOf.mp hday
    obtain rfl := h.days.eq_of_number hownMem hdayMem hid
    obtain rfl := h.months.eq_of_number hmem hrow (hownMonth.symm.trans hdayMonth)
    exact ⟨by omega, by omega, by omega⟩

/-- The spends that a search finds within a month are those of its days. -/
theorem Integrity.exists_isOn (h : Integrity l) (hrow : row ∈ l.months)
    (hspans : row.Spans first last) {record : SpendRecord}
    (hrecord : record ∈ (within (some first) (some last)).query.apply l.records) :
    ∃ date ∈ first.upTo last, IsOn record date := by
  obtain ⟨hmem, haccepted⟩ := List.mem_filter.mp (List.mem_mergeSort.mp hrecord)
  have hkeys : first.key ≤ record.dateKey ∧ record.dateKey ≤ last.key := by
    rw [Query.accepts, filters_within] at haccepted
    simpa [dateFilter, Filter.holds] using haccepted
  obtain ⟨spend, hspend, hfound⟩ := List.mem_filterMap.mp hmem
  obtain ⟨month, hmonth, _, _, _, ⟨hyear, hmonthNumber, _⟩, hbounds, hfirst, hlast⟩ :=
    h.exists_day (h.shownAs hspend hfound)
  have hlength := month.length_le
  obtain ⟨⟨hfirstYear, hfirstMonth, hfirstDay⟩, hlastYear, hlastMonth, hlastDay⟩ := hspans
  have hrowLength := row.length_le
  have hrowMonth := (h.calendar row hrow).bounds.2
  -- Between the keys of two days of one month there are only keys of days of that month.
  have hsame : month.year = row.year ∧ month.month = row.month := by
    unfold SpendRecord.dateKey Date.key at hkeys
    omega
  obtain rfl := h.month_eq_of_date hrow hmonth hsame.1 hsame.2
  have hspans : month.Spans first last :=
    ⟨⟨hfirstYear, hfirstMonth, hfirstDay⟩, hlastYear, hlastMonth, hlastDay⟩
  have hpositive : 1 ≤ record.day.toNat := by omega
  have hwithin : record.day.toNat ≤ month.length := by omega
  obtain ⟨date, hdate, hdateYear, hdateMonth, hdateDay⟩ := hspans.exists_mem_upTo hpositive hwithin
  exact ⟨date, hdate, by omega, by omega, by omega⟩

/-! ## The report of a month -/

/-- A day is reported with what its loaded spends cost. -/
theorem Integrity.spent_eq (h : Integrity l) (hrow : row ∈ l.months)
    (hspans : row.Spans first last) {date : Date} (hdate : date ∈ first.upTo last) {day : DayRow}
    (hday : day ∈ l.daysOf row.id) (hnumber : day.day = date.day) :
    ((((within (some first) (some last)).query.apply l.records).filter
      (·.dateKey = date.key)).map (·.cost)).foldl (· + ·) (.zero l.precision) =
        (l.dayOf day).spent l.precision := by
  obtain ⟨hyear, hmonth⟩ := hspans.fields_of_mem hdate
  have hdayBounds := (h.calendar row hrow).day_bounds hday
  obtain ⟨⟨hfirstYear, hfirstMonth, hfirstDay⟩, hlastYear, hlastMonth, hlastDay⟩ := hspans
  have hwithin (record : SpendRecord) :
      (decide (record.dateKey = date.key) &&
        (within (some first) (some last)).query.accepts record) =
          decide (record.dateKey = date.key) := by
    rw [Bool.and_eq_left_iff_imp]
    intro hkey
    have hkey := of_decide_eq_true hkey
    rw [Query.accepts, filters_within]
    simp [dateFilter, Filter.holds, hkey, Date.key]
    omega
  have hfound := ((List.mergeSort_perm (l.records.filter
    (within (some first) (some last)).query.accepts)
      fun a b => (within (some first) (some last)).query.compare a b != .gt).filter
        (·.dateKey = date.key)).map (·.cost)
  rw [List.filter_filter] at hfound
  simp only [hwithin] at hfound
  rw [map_filter_of_shownAs h.forall₂_shownAs (·.dayId = day.id)] at hfound
  · rw [dayOf_spent]
    have hunits : ((l.spends.filter (·.dayId = day.id)).map fun spend => l.money spend.cost) =
        ((l.spends.filter (·.dayId = day.id)).map (·.cost)).map (⟨·, l.precision⟩) := by
      rw [List.map_map]
      rfl
    exact Money.foldl_add_of_perm (hunits ▸ hfound)
  · intro spend record hshown
    rw [decide_eq_true_iff, decide_eq_true_iff]
    exact h.dateKey_eq_iff hrow hshown hyear hmonth hday hnumber

/-- An entry of a report has the date of a day of a month and what was spent on the day. -/
def MonthRow.Reports (row : MonthRow) (precision : Nat) (entry : Date × Money) (day : Day) : Prop :=
  ((entry.1.year : Int) = row.year ∧ (entry.1.month : Int) = row.month ∧
    (entry.1.day : Int) = day.day) ∧ entry.2 = day.spent precision

/-- The report of a month has an entry for each day, in order. -/
theorem Integrity.exists_report (h : Integrity l) (hrow : row ∈ l.months)
    (hspans : row.Spans first last) :
    ∃ entries, Statistics.spentByDay ((within (some first) (some last)).query.apply l.records)
        first last l.precision = .ok entries ∧
      List.Forall₂ (row.Reports l.precision) entries (l.monthOf row).days := by
  have hcalendar := h.calendar row hrow
  obtain ⟨⟨hfirstYear, hfirstMonth, hfirstDay⟩, hlastYear, hlastMonth, hlastDay⟩ := id hspans
  have hordered : first.key ≤ last.key := by
    have := row.length_pos
    unfold Date.key
    omega
  have hlength : Calendar.daysInMonth last.year last.month = .ok row.length := by
    rw [hlastYear, hlastMonth]
    exact hcalendar.1
  have hnext : last.next? ≠ none := Date.next?_ne_none hlength
  refine ⟨_, spentByDay_eq_ok l.precision hordered hnext hspans.pairwise_upTo
    fun record hrecord => h.exists_isOn hrow hspans hrecord, ?_⟩
  have hnumbers : (first.upTo last).map (fun date => (date.day : Int)) =
      (l.daysOf row.id).map (·.day) := by
    have hdays := congrArg (List.map fun fields => (fields.2.2 : Int)) hspans.upTo_eq
    rw [List.map_map, List.map_map] at hdays
    rw [hcalendar.2]
    exact hdays
  rw [List.forall₂_map_left_iff]
  change List.Forall₂ _ _ ((l.daysOf row.id).map l.dayOf)
  rw [List.forall₂_map_right_iff]
  apply (forall₂_of_map_eq hnumbers).imp
  rintro date day ⟨⟨hdate, hday⟩, hnumber⟩
  obtain ⟨hyear, hmonth⟩ := hspans.fields_of_mem hdate
  exact ⟨⟨hyear, hmonth, hnumber⟩, h.spent_eq hrow hspans hdate hday hnumber.symm⟩

/-- What was spent on the days of a month is what its total leaves beside the payments. -/
theorem Sound.total_spent (h : Sound l) (hrow : row ∈ l.months) :
    Money.total l.precision ((l.monthOf row).days.map (·.spent l.precision)) =
      -(l.monthOf row).totalSpend -
        Money.total l.precision ((l.monthOf row).payments.map (·.cost)) := by
  have hdays : (l.monthOf row).days.map (·.spent l.precision) =
      ((l.spentByDay row.id).map Prod.snd).map (⟨·, l.precision⟩) := by
    simp only [monthOf, spentByDay, List.map_map]
    exact List.map_congr_left fun day _ => l.dayOf_spent day
  have hpayments : (l.monthOf row).payments.map (·.cost) =
      ((l.payments.filter (·.monthId = row.id)).map (·.cost)).map (⟨·, l.precision⟩) := by
    simp only [monthOf, List.map_map]
    rfl
  have htotal : row.totalSpend =
      -l.paymentUnits row.id - ((l.spentByDay row.id).map Prod.snd).sum :=
    congrArg Figures.totalSpend (h.settled row hrow).stored_eq
  rw [hdays, hpayments, Money.total_mk, Money.total_mk]
  change _ = (⟨-row.totalSpend, l.precision⟩ - ⟨l.paymentUnits row.id, l.precision⟩ : Money)
  rw [Money.sub_mk, htotal]
  congr 1
  omega

/-! ## Every run -/

/-- After every run of a new ledger a search without conditions finds every stored spend once, under
the date of its day, by date and on one day by number. For every month the spends that a search
finds from its first to its last day are reported with one entry for each day, in order, which has
the amount of the day as the month is loaded; and these amounts add up to what the total of the
month leaves beside its payments. -/
theorem readings_run (currency : Currency) (operations : List Operation) :
    let l := (Ledger.empty currency).run operations
    (∃ rows, l.handle (.search Criteria.all) = .ok (l.answer rows) ∧
      (∃ listed, rows.Perm listed ∧ List.Forall₂ l.ShownAs l.spends listed) ∧
      rows.Pairwise Precedes) ∧
    ∀ row ∈ l.months, ∃ first last month rows entries,
      row.Spans first last ∧
      l.handle (.month row.id) = .ok (l.answer month) ∧
      l.handle (.search { Criteria.all with after := some first, before := some last }) =
        .ok (l.answer rows) ∧
      Statistics.spentByDay rows first last currency.precision = .ok entries ∧
      (month.days.map (·.day) = (List.range row.length).map fun i : Nat => (i : Int) + 1) ∧
      List.Forall₂ (row.Reports currency.precision) entries month.days ∧
      Money.total currency.precision (entries.map (·.2)) =
        -month.totalSpend - Money.total currency.precision (month.payments.map (·.cost)) := by
  intro l
  have hsound : Sound l := (Sound.empty currency).run operations
  have h := hsound.integrity
  have hprecision : l.precision = currency.precision :=
    congrArg Currency.precision (currency_run currency operations)
  have hsearch (after before : Option Date) : l.handle (.search (within after before)) =
      .ok (l.answer ((within after before).query.apply l.records)) :=
    handle_eq_answer rfl (search_within h after before)
  refine ⟨⟨_, hsearch none none, ⟨_, apply_within_perm l, h.forall₂_shownAs⟩,
    pairwise_precedes h none none⟩, ?_⟩
  intro row hrow
  have hcalendar := h.calendar row hrow
  obtain ⟨first, last, hspans⟩ := hcalendar.exists_spans
  obtain ⟨entries, hreport, hentries⟩ := h.exists_report hrow hspans
  have hamounts : entries.map (·.2) = (l.monthOf row).days.map (·.spent l.precision) := by
    rw [← List.forall₂_eq_eq_eq, List.forall₂_map_left_iff, List.forall₂_map_right_iff]
    exact hentries.imp fun _ _ hentry => hentry.2
  have htotal := hsound.total_spent hrow
  rw [← hamounts, hprecision] at htotal
  rw [hprecision] at hreport hentries
  refine ⟨first, last, l.monthOf row, _, entries, hspans,
    handle_month (h.find?_month hrow),
    hsearch (some first) (some last), hreport, ?_, hentries, htotal⟩
  simp only [monthOf, List.map_map]
  exact hcalendar.2

/-- A month at the end of a year and a leap month with a payment, of whose two spends the one on the
last day is a refund. -/
def leapRefund : List Operation :=
  [⟨.openMonth 2023 12⟩, ⟨.openMonth 2024 2⟩, ⟨.addPayment ⟨2, "Rent", ⟨90000, 2⟩, 0, ""⟩⟩,
    ⟨.addSpend ⟨60, "Tea, returned", ⟨-250, 2⟩, 0, "", .any⟩⟩,
    ⟨.addSpend ⟨34, "Tea", ⟨700, 2⟩, 0, "", .positive⟩⟩,
    ⟨.addSpend ⟨31, "Party", ⟨3000, 2⟩, 0, "", .positive⟩⟩]

theorem readings_leapRefund :
    let l := (Ledger.empty .gbp).run leapRefund
    (∃ rows, l.handle (.search Criteria.all) = .ok (l.answer rows) ∧ rows.length = 3 ∧
      rows.Pairwise Precedes) ∧
    ∃ first last month rows entries, (first.key = 20240201 ∧ last.key = 20240229) ∧
      l.handle (.month 2) = .ok (l.answer month) ∧
      Statistics.spentByDay rows first last 2 = .ok entries ∧ entries.length = 29 ∧
      Money.total 2 (entries.map (·.2)) =
        -month.totalSpend - Money.total 2 (month.payments.map (·.cost)) := by
  intro l
  have hrow : ⟨2, 2024, 2, -3103, 0, -90450, -90450⟩ ∈ l.months := by
    decide +kernel
  have hspends : l.spends.length = 3 := by
    decide +kernel
  obtain ⟨⟨rows, hrows, ⟨listed, hperm, hlisted⟩, hordered⟩, hmonths⟩ :=
    readings_run .gbp leapRefund
  obtain ⟨first, last, month, found, entries, hspans, hmonth, _, hreport, hdays, hentries,
    htotal⟩ := hmonths _ hrow
  refine ⟨⟨rows, hrows, ?_, hordered⟩, first, last, month, found, entries, ?_, hmonth, hreport, ?_,
    htotal⟩
  · rw [hperm.length_eq, ← hlisted.length_eq, hspends]
  · obtain ⟨⟨hyear, hmonthNumber, hday⟩, hlastYear, hlastMonth, hlastDay⟩ := hspans
    have hlength : MonthRow.length ⟨2, 2024, 2, -3103, 0, -90450, -90450⟩ = 29 := by
      decide
    rw [hlength] at hlastDay
    dsimp only at hyear hmonthNumber hlastYear hlastMonth
    unfold Date.key
    omega
  · rw [hentries.length_eq, ← List.length_map (·.day), hdays, List.length_map, List.length_range]
    decide

end Allowance.Ledger
