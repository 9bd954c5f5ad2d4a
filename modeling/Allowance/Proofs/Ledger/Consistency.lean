import Allowance.Proofs.Ledger.Integrity

/-!
# Consistent ledgers

In every state of a ledger its months are months of the calendar, each with a day for every date
in it, and nothing refers to a row that is not there. For this reason a date of an open month
always has its day, and every month and day that exists can be loaded.
-/

namespace Allowance.Ledger

open Outcome

variable {l : Ledger}

theorem FollowsCalendar.bounds {row : MonthRow} (h : l.FollowsCalendar row) :
    (1 ≤ row.year ∧ row.year ≤ 9999) ∧ (1 ≤ row.month ∧ row.month ≤ 12) := by
  obtain ⟨hyear, hmonth, _⟩ := Calendar.daysInMonth_eq_ok h.1
  exact ⟨hyear, hmonth⟩

/-- A month has a day of every number up to its length. -/
theorem FollowsCalendar.exists_day {row : MonthRow} (h : l.FollowsCalendar row) {number : Nat}
    (hfirst : 1 ≤ number) (hlast : number ≤ row.length) :
    ∃ day ∈ l.daysOf row.id, day.day = number := by
  have hmem : (number : Int) ∈ (l.daysOf row.id).map (·.day) := by
    rw [h.2]
    refine List.mem_map.mpr ⟨number - 1, List.mem_range.mpr (by omega), ?_⟩
    omega
  obtain ⟨day, hday, hnumber⟩ := List.mem_map.mp hmem
  exact ⟨day, hday, hnumber⟩

/-- No two days of a month have one number. -/
theorem FollowsCalendar.day_inj {row : MonthRow} (h : l.FollowsCalendar row) {day other : DayRow}
    (hday : day ∈ l.daysOf row.id) (hother : other ∈ l.daysOf row.id)
    (hnumber : day.day = other.day) : day = other := by
  have hnodup : ((l.daysOf row.id).map (·.day)).Nodup := by
    rw [h.2]
    exact List.nodup_range.map fun i j hij => by omega
  exact List.inj_on_of_nodup_map hnodup hday hother hnumber

namespace Integrity

theorem findMonth?_eq_some (h : Integrity l) {row : MonthRow} (hrow : row ∈ l.months) :
    l.findMonth? row.year row.month = some row := by
  apply Table.find?_eq_some_of_unique hrow (by simp)
  intro other hother hdate
  simp only [Bool.and_eq_true, beq_iff_eq] at hdate
  exact List.inj_on_of_nodup_map h.distinct hother hrow (Prod.ext hdate.1 hdate.2)

/-- Every date of an open month has its day. -/
theorem dayOn_eq_ok (h : Integrity l) {row : MonthRow} (hrow : row ∈ l.months) {date : Date}
    (hyear : date.year = row.year) (hmonth : date.month = row.month) :
    ∃ day ∈ l.daysOf row.id, day.day = date.day ∧ l.dayOn date = .ok day.id := by
  have hcalendar := h.calendar row hrow
  obtain ⟨_, _, _, _, hfirst, hlast⟩ := date.isDate
  have hlength : date.day ≤ row.length := by
    rw [MonthRow.length, ← hyear, ← hmonth]
    exact hlast
  obtain ⟨day, hday, hnumber⟩ := hcalendar.exists_day hfirst hlength
  obtain ⟨hmem, hmonthId⟩ := mem_daysOf.mp hday
  have hmonthFound : l.findMonth? date.year date.month = some row := by
    rw [hyear, hmonth]
    exact h.findMonth?_eq_some hrow
  have hdayFound :
      l.days.find? (fun other => other.monthId == row.id && other.day == (date.day : Int)) =
        some day := by
    apply Table.find?_eq_some_of_unique hmem (by simp [hmonthId, hnumber])
    intro other hother hwanted
    simp only [Bool.and_eq_true, beq_iff_eq] at hwanted
    exact hcalendar.day_inj (mem_daysOf.mpr ⟨hother, hwanted.1⟩) hday
      (hwanted.2.trans hnumber.symm)
  refine ⟨day, hday, hnumber, ?_⟩
  simp [dayOn, hmonthFound, hdayFound]

/-- A day that exists is among the days that its month is loaded with. -/
theorem day_eq_ok (h : Integrity l) {row : DayRow} (hrow : row ∈ l.days) :
    l.day row.id = .ok (l.dayOf row) := by
  obtain ⟨month, hmonth⟩ := Table.find?_isSome_iff.mpr (h.dayMonth row hrow)
  obtain ⟨_, hmonthId⟩ := Table.mem_of_find? hmonth
  have hlisted : (l.monthOf month).days.find? (·.id == row.id) = some (l.dayOf row) := by
    apply Table.find?_eq_some_of_unique
      (List.mem_map_of_mem (mem_daysOf.mpr ⟨hrow, hmonthId.symm⟩)) (by simp [dayOf])
    intro other hother hid
    obtain ⟨day, hday, rfl⟩ := List.mem_map.mp hother
    rw [h.days.eq_of_number (mem_daysOf.mp hday).1 hrow (by simpa [dayOf] using hid)]
  rw [day]
  simp only [bind_eq_ok]
  refine ⟨row, require_eq_ok.mpr (h.days.find?_number hrow), l.monthOf month,
    loadMonth_of_find? hmonth, ?_⟩
  rw [hlisted]
  rfl

end Integrity

/-! ## Every run -/

/-- After every run of a new ledger its months have dates of their own in the calendar, each with
one day for every number up to its length; whatever a row refers to exists; every date of an open
month has its day; and every day and every month that exists can be loaded. -/
theorem consistent_run (currency : Currency) (operations : List Operation) :
    let l := (Ledger.empty currency).run operations
    ((l.months.map fun row => (row.year, row.month)).Nodup ∧
      ∀ row ∈ l.months, (1 ≤ row.year ∧ row.year ≤ 9999) ∧ (1 ≤ row.month ∧ row.month ≤ 12) ∧
        (l.daysOf row.id).map (·.day) =
          (List.range row.length).map fun i : Nat => (i : Int) + 1) ∧
    ((∀ row ∈ l.days, row.monthId ∈ Table.numbers l.months) ∧
      (∀ row ∈ l.incomes, row.monthId ∈ Table.numbers l.months) ∧
      (∀ row ∈ l.payments, row.monthId ∈ Table.numbers l.months) ∧
      ∀ row ∈ l.spends, row.dayId ∈ Table.numbers l.days) ∧
    ((∀ row ∈ l.payments, l.KnowsType row.typeId) ∧ (∀ row ∈ l.spends, l.KnowsType row.typeId) ∧
      (∀ type ∈ l.types, l.KnowsType type.parent) ∧ ∀ type ∈ l.types, type.id ≠ SpendType.noType) ∧
    (∀ row ∈ l.months, ∀ date : Date, date.year = row.year → date.month = row.month →
      ∃ day ∈ l.daysOf row.id, day.day = date.day ∧
        l.handle (.dayOn date) = .ok (l.answer day.id)) ∧
    (∀ id ∈ Table.numbers l.days, ∃ day, l.handle (.day id) = .ok (l.answer day) ∧ day.id = id) ∧
    ∀ id ∈ Table.numbers l.months,
      ∃ month, l.handle (.month id) = .ok (l.answer month) ∧ month.id = id := by
  intro l
  have h : Integrity l := (Integrity.empty currency).run operations
  refine ⟨⟨h.distinct, ?_⟩, ⟨h.dayMonth, h.incomeMonth, h.paymentMonth, h.spendDay⟩,
    ⟨h.paymentType, h.spendType, h.typeParent, ?_⟩, ?_, ?_, ?_⟩
  · intro row hrow
    have hcalendar := h.calendar row hrow
    exact ⟨hcalendar.bounds.1, hcalendar.bounds.2, hcalendar.2⟩
  · intro type htype
    exact Int.ne_of_gt (h.types.positive type.id (Table.number_mem htype))
  · intro row hrow date hyear hmonth
    obtain ⟨day, hday, hnumber, hanswer⟩ := h.dayOn_eq_ok hrow hyear hmonth
    exact ⟨day, hday, hnumber, handle_eq_answer rfl hanswer⟩
  · intro id hid
    obtain ⟨row, hrow, rfl⟩ := Table.mem_numbers.mp hid
    exact ⟨l.dayOf row, handle_eq_answer rfl (h.day_eq_ok hrow), rfl⟩
  · intro id hid
    obtain ⟨row, hrow, rfl⟩ := Table.mem_numbers.mp hid
    exact ⟨l.monthOf row, handle_month (h.find?_month hrow), rfl⟩

/-- A leap month with a spend on its last day; the last month of the calendar cannot be opened, and
a type that is in use cannot be removed. -/
def leapSpend : List Operation :=
  [⟨.openMonth 2024 2⟩, ⟨.openMonth 9999 12⟩, ⟨.addSpendType ⟨"Food", 0⟩⟩,
    ⟨.addSpend ⟨29, "Tea", ⟨250, 2⟩, 1, "", .positive⟩⟩, ⟨.removeSpendType 1⟩]

theorem consistent_leapSpend :
    let l := (Ledger.empty .gbp).run leapSpend
    l.months = [⟨1, 2024, 2, 0, 0, -250, -250⟩] ∧ l.spends = [⟨1, 29, 1, "Tea", "", 250⟩] ∧
      l.types = [⟨1, "Food", 0⟩] ∧
      (∃ day ∈ l.daysOf 1, day.day = 29 ∧
        l.handle (.dayOn ⟨2024, 2, 29, by decide⟩) = .ok (l.answer day.id)) ∧
      (∃ day, l.handle (.day 29) = .ok (l.answer day) ∧ day.id = 29) ∧
      ∃ month, l.handle (.month 1) = .ok (l.answer month) ∧ month.id = 1 := by
  intro l
  have hmonths : l.months = [⟨1, 2024, 2, 0, 0, -250, -250⟩] := by
    decide +kernel
  have hdays : 29 ∈ Table.numbers l.days := by
    decide +kernel
  obtain ⟨_, _, _, hdayOn, hday, hmonth⟩ := consistent_run .gbp leapSpend
  refine ⟨hmonths, by decide +kernel, by decide +kernel,
    hdayOn ⟨1, 2024, 2, 0, 0, -250, -250⟩ ?_ ⟨2024, 2, 29, by decide⟩ rfl rfl,
    hday 29 hdays, hmonth 1 ?_⟩
  · simp [l, hmonths]
  · simp [l, Table.numbers, hmonths]

end Allowance.Ledger
