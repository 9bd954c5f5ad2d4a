import Allowance.Proofs.Calendar.Succession
import Allowance.Proofs.Money.Total
import Allowance.Proofs.Statistics.ByDay

/-!
# The dates and amounts of a daily report

A report by day has the days of its period and all other dates with spends, each once and in order,
with what the spends of the date cost together. No spend is lost and none counts twice, wherever its
date lies. Only a period that ends with the calendar cannot be stepped through.
-/

namespace Allowance.Statistics

open Outcome Date

variable {rows : List SpendRecord} {first last : Date} {precision : Nat}

/-! ## The spends of a date -/

/-- What the spends of a date cost, one by one. -/
def costsOn (rows : List SpendRecord) (date : Date) : List Money :=
  (rows.filter (IsOn · date)).map (·.cost)

/-- The amount reported for a date is found by the key of the date. -/
theorem costsOn_eq (hrows : ∀ row ∈ rows, ∃ date, IsOn row date) (date : Date) :
    costsOn rows date = (rows.filter (·.dateKey = date.key)).map (·.cost) := by
  have hkeys : ∀ row ∈ rows, decide (IsOn row date) = decide (row.dateKey = date.key) := by
    intro row hrow
    obtain ⟨day, hon⟩ := hrows row hrow
    have hbounds := day.bounds
    obtain ⟨-, hmonth, hday⟩ := hon
    rw [decide_eq_decide]
    exact isOn_iff_dateKey (by omega) (by omega)
  rw [costsOn, List.filter_congr hkeys]

/-- Every spend is on one date of the list, so it counts once. -/
theorem sum_valueSum_costsOn {dates : List Date} (hnodup : dates.Nodup)
    (hrows : ∀ row ∈ rows, ∃ date ∈ dates, IsOn row date) :
    (dates.map fun date => Money.valueSum (costsOn rows date)).sum =
      Money.valueSum (rows.map (·.cost)) := by
  induction rows with
  | nil => simp [costsOn, Money.valueSum]
  | cons row rest ih =>
      obtain ⟨⟨day, hday, hon⟩, hrest⟩ := List.forall_mem_cons.mp hrows
      have hsplit (date : Date) : Money.valueSum (costsOn (row :: rest) date) =
          (if date = day then row.cost.value else 0) + Money.valueSum (costsOn rest date) := by
        have hfirst : IsOn row date ↔ date = day := ⟨fun h => h.unique hon, fun h => h ▸ hon⟩
        rw [costsOn, List.filter_cons]
        by_cases hdate : date = day
        · rw [if_pos (decide_eq_true (hfirst.mpr hdate)), if_pos hdate, List.map_cons,
            Money.valueSum_cons, costsOn]
        · rw [if_neg (by simpa using hfirst.not.mpr hdate), if_neg hdate, zero_add, costsOn]
      simp only [hsplit]
      rw [List.sum_map_add, ih hrest, List.sum_map_ite_eq, List.count_eq_one_of_mem hnodup hday,
        List.map_cons, Money.valueSum_cons]
      simp

/-! ## The entries of a report -/

/-- A report of the days of a period and of all spends. -/
structure ReportsDays (rows : List SpendRecord) (first last : Date) (precision : Nat)
    (report : List (Date × Money)) : Prop where
  ascending : report.Pairwise fun entry later => entry.1.Precedes later.1
  dates : ∀ date, date ∈ report.map (·.1) ↔
    (¬ date.Precedes first ∧ ¬ last.Precedes date) ∨ ∃ row ∈ rows, IsOn row date
  spent : ∀ entry ∈ report, entry.2.value = Money.valueSum (costsOn rows entry.1)
  digits : ∀ entry ∈ report,
    entry.2.precision = ((costsOn rows entry.1).map (·.precision)).foldl max precision
  conserved : Money.valueSum (report.map (·.2)) = Money.valueSum (rows.map (·.cost))

theorem reportsDays_of_dates {dates : List Date}
    (hrows : ∀ row ∈ rows, ∃ date, IsOn row date)
    (hascending : dates.Pairwise fun a b => a.key < b.key)
    (hdates : ∀ date, date ∈ dates ↔
      (¬ date.Precedes first ∧ ¬ last.Precedes date) ∨ ∃ row ∈ rows, IsOn row date) :
    ReportsDays rows first last precision
      (dates.map fun date => (date, (costsOn rows date).foldl (· + ·) (.zero precision))) where
  ascending := by
    rw [List.pairwise_map]
    exact hascending.imp key_lt_iff.mp
  dates := by simpa only [List.map_map, Function.comp_def, List.map_id'] using hdates
  spent := by
    rw [List.forall_mem_map]
    intro date _
    rw [Money.value_foldl_add, Money.value_zero, zero_add]
  digits := by
    rw [List.forall_mem_map]
    intro date _
    exact Money.precision_foldl_add _ _
  conserved := by
    have hnodup : dates.Nodup := hascending.imp fun hlt heq => by
      subst heq
      omega
    have hlisted : ∀ row ∈ rows, ∃ date ∈ dates, IsOn row date := by
      intro row hrow
      obtain ⟨date, hon⟩ := hrows row hrow
      exact ⟨date, (hdates date).mpr (.inr ⟨row, hrow, hon⟩), hon⟩
    rw [← sum_valueSum_costsOn hnodup hlisted, Money.valueSum, List.map_map, List.map_map]
    simp only [Function.comp_def, Money.value_foldl_add, Money.value_zero, zero_add]

/-! ## When there is a report -/

/-- A period that can be stepped through has a report. -/
theorem exists_dailyReport {days : List Date} (hrows : ∀ row ∈ rows, ∃ date, IsOn row date)
    (h : StepsThrough last first days) (precision : Nat) :
    ∃ report, spentByDay rows first last precision = .ok report ∧
      ReportsDays rows first last precision report := by
  obtain ⟨costs, hcosts, hon, hsame⟩ := exists_datedCosts precision hrows
  have hspent (date : Date) : spentOn precision costs date =
      (costsOn rows date).foldl (· + ·) (.zero precision) := by
    rw [spentOn_eq hsame, costsOn_eq hrows]
  refine ⟨_, ?_, reportsDays_of_dates hrows (pairwise_distinctDates (costs.map (·.1) ++ days))
    fun date => ?_⟩
  · rw [spentByDay, hcosts, visitDays_of_stepsThrough h]
    simp only [← hspent]
    rfl
  · rw [mem_distinctDates, List.mem_append, hon, h.mem_iff, ← key_lt_iff, ← key_lt_iff, not_lt,
      not_lt, or_comm]

/-- Nothing steps past the last day of the calendar. -/
theorem spentByDay_lastDay (hrows : ∀ row ∈ rows, ∃ date, IsOn row date) (first : Date)
    (precision : Nat) : spentByDay rows first lastDay precision = .error .outOfRange := by
  obtain ⟨costs, hcosts, -⟩ := exists_datedCosts precision hrows
  rw [spentByDay, hcosts, visitDays_lastDay]
  rfl

/-- Without a zero there are no amounts, neither for a spend nor for a day of the period. -/
theorem spentByDay_negSucc (hrows : ∀ row ∈ rows, ∃ date, IsOn row date) (excess : Nat)
    (hneeded : rows ≠ [] ∨ ¬ last.Precedes first) :
    spentByDay rows first last (.negSucc excess) = .error (.misuse .negativePrecision) := by
  cases rows with
  | nil =>
      have hbefore : ¬ last.before first = true := by
        rw [before_iff]
        exact hneeded.resolve_left (· rfl)
      change (visitDays (.negSucc excess) last [] first >>= _) = _
      rw [visitDays, dif_neg hbefore]
      rfl
  | cons row rest =>
      obtain ⟨⟨date, hon⟩, -⟩ := List.forall_mem_cons.mp hrows
      rw [spentByDay, datedCosts, List.mapM_cons, hon.1, hon.2.1, hon.2.2, ofNumbers_fields]
      rfl

theorem spentByDay_nil (hpast : last.Precedes first) (precision : Int) :
    spentByDay [] first last precision = .ok [] := by
  change (visitDays precision last [] first >>= _) = _
  rw [visitDays_of_past hpast]
  change Except.ok ((distinctDates []).map _) = _
  simp [distinctDates]

/-- With amounts of some precision, a report fails only for a period that ends with the calendar.
Any other period is passed day by day, and there is a report of its days and of all spends. Below
zero there is no precision, so all that can be reported is that nothing was spent on no day. -/
theorem spentByDay_reportsDays (hrows : ∀ row ∈ rows, ∃ date, IsOn row date) (first last : Date)
    (precision : Int) :
    (0 ≤ precision →
      (spentByDay rows first last precision = .error .outOfRange ↔
        ¬ last.Precedes first ∧ last = lastDay) ∧
      ((∃ days, StepsThrough last first days) ↔ ¬ (¬ last.Precedes first ∧ last = lastDay)) ∧
      (¬ (¬ last.Precedes first ∧ last = lastDay) →
        ∃ report, spentByDay rows first last precision = .ok report ∧
          ReportsDays rows first last precision.toNat report)) ∧
    (precision < 0 →
      (rows ≠ [] ∨ ¬ last.Precedes first →
        spentByDay rows first last precision = .error (.misuse .negativePrecision)) ∧
      (rows = [] ∧ last.Precedes first → spentByDay rows first last precision = .ok [])) := by
  have hends : (¬ last.Precedes first ∧ last = lastDay) ↔ last = lastDay :=
    and_iff_right_of_imp fun h => h ▸ not_lastDay_precedes first
  rw [hends, StepsThrough.exists_iff]
  cases precision with
  | ofNat digits =>
      refine ⟨fun _ => ⟨?_, Iff.rfl, ?_⟩,
        fun hnegative => absurd hnegative (Int.natCast_nonneg digits).not_gt⟩
      · constructor
        · intro hfails
          by_contra hlast
          obtain ⟨days, hsteps⟩ := StepsThrough.exists_iff.mpr hlast
          obtain ⟨report, hreport, -⟩ := exists_dailyReport hrows hsteps digits
          cases hreport.symm.trans hfails
        · rintro rfl
          exact spentByDay_lastDay hrows first digits
      · intro hlast
        obtain ⟨days, hsteps⟩ := StepsThrough.exists_iff.mpr hlast
        exact exists_dailyReport hrows hsteps digits
  | negSucc excess =>
      refine ⟨fun hnonneg => by omega, fun _ => ⟨spentByDay_negSucc hrows excess, ?_⟩⟩
      rintro ⟨rfl, hpast⟩
      exact spentByDay_nil hpast _

/-- Around the end of a February with a leap day, with a bus ride the year before. The last day of
the calendar cannot be reported. -/
theorem spentByDay_leapDay :
    let rows : List SpendRecord := [⟨1, 2024, 2, 29, "Tea", ⟨250, 2⟩, 1, ""⟩,
      ⟨2, 2023, 12, 31, "Bus", ⟨180, 2⟩, 2, ""⟩, ⟨3, 2024, 2, 29, "Cake", ⟨1125, 3⟩, 1, ""⟩]
    let february : Date := ⟨2024, 2, 28, by decide⟩
    let march : Date := ⟨2024, 3, 1, by decide⟩
    (∀ row ∈ rows, ∃ date, IsOn row date) ∧ ¬ (¬ march.Precedes february ∧ march = lastDay) ∧
      (∃ days, StepsThrough march february days) ∧
      (∃ report, spentByDay rows february march 2 = .ok report ∧
        ReportsDays rows february march 2 report) ∧
      spentByDay rows february lastDay 2 = .error .outOfRange := by
  intro rows february march
  have hrows : ∀ row ∈ rows, ∃ date, IsOn row date := by
    simp only [rows, List.forall_mem_cons]
    exact ⟨⟨⟨2024, 2, 29, by decide⟩, rfl, rfl, rfl⟩, ⟨⟨2023, 12, 31, by decide⟩, rfl, rfl, rfl⟩,
      ⟨⟨2024, 2, 29, by decide⟩, rfl, rfl, rfl⟩, nofun⟩
  have hmarch : ¬ (¬ march.Precedes february ∧ march = lastDay) := fun h =>
    absurd h.2 (by decide)
  obtain ⟨-, hsteps, hreport⟩ := (spentByDay_reportsDays hrows february march 2).1 (by decide)
  obtain ⟨hends, -⟩ := (spentByDay_reportsDays hrows february lastDay 2).1 (by decide)
  exact ⟨hrows, hmarch, hsteps.mpr hmarch, hreport hmarch,
    hends.mpr ⟨not_lastDay_precedes _, rfl⟩⟩

/-- Tea on a single day, well before the end of the calendar. At a precision below zero there is no
amount to start from, and no report. -/
theorem no_dailyReport_negativePrecision :
    let tea : SpendRecord := ⟨1, 2025, 1, 1, "Tea", ⟨100, 2⟩, 0, ""⟩
    let day : Date := ⟨2025, 1, 1, by decide⟩
    IsOn tea day ∧ ¬ (¬ day.Precedes day ∧ day = lastDay) ∧
      ¬ ∃ report, spentByDay [tea] day day (-1) = .ok report := by
  intro tea day
  refine ⟨⟨rfl, rfl, rfl⟩, fun h => absurd h.2 (by decide), ?_⟩
  rintro ⟨report, hreport⟩
  cases hreport

end Allowance.Statistics
