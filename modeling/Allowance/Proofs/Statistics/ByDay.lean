import Mathlib.Data.List.Forall2
import Mathlib.Data.List.Perm.Basic
import Allowance.Proofs.Calendar.Succession
import Allowance.Proofs.Outcome
import Allowance.Statistics.ByDay

/-!
# Spending by day

The report of a period whose spends all fall into it has one entry for each day of the period, in
order, with what the spends of that day cost together.
-/

namespace Allowance.Statistics

open Outcome

/-! ## Dates in ascending order -/

/-- One step from the last date to the first, which leaves out a date that is there already. -/
theorem distinctDates_spec {sorted : List Date} (h : sorted.Pairwise fun a b => a.key ≤ b.key) :
    let kept := sorted.foldr
      (fun date later => if later.head? = some date then later else date :: later) []
    kept.Pairwise (fun a b => a.key < b.key) ∧ ∀ date, date ∈ kept ↔ date ∈ sorted := by
  induction sorted with
  | nil => exact ⟨List.Pairwise.nil, fun _ => Iff.rfl⟩
  | cons date rest ih =>
      obtain ⟨hdate, hrest⟩ := List.pairwise_cons.mp h
      obtain ⟨hascending, hmem⟩ := ih hrest
      rw [List.foldr_cons]
      generalize rest.foldr
        (fun date later => if later.head? = some date then later else date :: later) [] = later
        at hascending hmem ⊢
      dsimp only
      split
      next hhead =>
        refine ⟨hascending, fun other => ?_⟩
        rw [hmem, List.mem_cons, or_iff_right_of_imp]
        rintro rfl
        exact (hmem other).mp (List.mem_of_head? hhead)
      next hhead =>
        refine ⟨List.pairwise_cons.mpr ⟨fun other hother => ?_, hascending⟩, fun other => ?_⟩
        · have hle := hdate other ((hmem other).mp hother)
          -- The date differs from the first one kept, and all others come after that one.
          refine Int.lt_iff_le_and_ne.mpr ⟨hle, fun hkey => ?_⟩
          obtain rfl := Date.key_inj.mp hkey
          cases later with
          | nil => cases hother
          | cons first others =>
              rcases List.mem_cons.mp hother with rfl | hothers
              · exact hhead rfl
              · have hfirst := hdate first ((hmem first).mp List.mem_cons_self)
                have hlt := (List.pairwise_cons.mp hascending).1 date hothers
                omega
        · rw [List.mem_cons, List.mem_cons, hmem]

theorem pairwise_mergeSort_key (dates : List Date) :
    (dates.mergeSort fun a b => a.key ≤ b.key).Pairwise fun a b => a.key ≤ b.key := by
  have htrans : ∀ a b c : Date, decide (a.key ≤ b.key) = true → decide (b.key ≤ c.key) = true →
      decide (a.key ≤ c.key) = true := by
    intro a b c hab hbc
    simp only [decide_eq_true_eq] at *
    omega
  have htotal : ∀ a b : Date, (decide (a.key ≤ b.key) || decide (b.key ≤ a.key)) = true := by
    intro a b
    simp only [Bool.or_eq_true, decide_eq_true_eq]
    omega
  exact (List.pairwise_mergeSort htrans htotal dates).imp of_decide_eq_true

theorem mem_distinctDates {dates : List Date} {date : Date} :
    date ∈ distinctDates dates ↔ date ∈ dates :=
  ((distinctDates_spec (pairwise_mergeSort_key dates)).2 date).trans List.mem_mergeSort

theorem pairwise_distinctDates (dates : List Date) :
    (distinctDates dates).Pairwise fun a b => a.key < b.key :=
  (distinctDates_spec (pairwise_mergeSort_key dates)).1

/-- Dates of a period add nothing to the days of the period. -/
theorem distinctDates_append {dates days : List Date}
    (hdays : days.Pairwise fun a b => a.key < b.key) (hdates : dates ⊆ days) :
    distinctDates (dates ++ days) = days := by
  have hfound := pairwise_distinctDates (dates ++ days)
  have hnodup {some : List Date} (h : some.Pairwise fun a b => a.key < b.key) : some.Nodup :=
    h.imp fun hlt heq => by
      subst heq
      omega
  have hperm : (distinctDates (dates ++ days)).Perm days := by
    rw [List.perm_ext_iff_of_nodup (hnodup hfound) (hnodup hdays)]
    intro date
    rw [mem_distinctDates, List.mem_append, or_iff_right_of_imp (@hdates date)]
  refine hperm.eq_of_pairwise ?_ hfound hdays
  intro a b _ _ hab hba
  omega

/-! ## The report of a period -/

/-- The date of a spend. -/
def IsOn (row : SpendRecord) (date : Date) : Prop :=
  row.year = date.year ∧ row.month = date.month ∧ row.day = date.day

instance (row : SpendRecord) (date : Date) : Decidable (IsOn row date) := by
  unfold IsOn
  infer_instance

theorem IsOn.unique {row : SpendRecord} {date other : Date} (h : IsOn row date)
    (hother : IsOn row other) : date = other := by
  obtain ⟨hyear, hmonth, hday⟩ := h
  obtain ⟨hyear', hmonth', hday'⟩ := hother
  exact Date.eq_of_fields (by omega) (by omega) (by omega)

theorem IsOn.dateKey_eq {row : SpendRecord} {date : Date} (h : IsOn row date) :
    row.dateKey = date.key := by
  rw [SpendRecord.dateKey, Date.key, h.1, h.2.1, h.2.2]

/-- A key tells the date of a spend whose month and day are within their bounds. -/
theorem isOn_iff_dateKey {row : SpendRecord} {date : Date} (hmonth : 1 ≤ row.month ∧ row.month ≤ 12)
    (hday : 1 ≤ row.day ∧ row.day ≤ 31) : IsOn row date ↔ row.dateKey = date.key := by
  have hdate := date.bounds
  unfold IsOn SpendRecord.dateKey Date.key
  omega

/-- The spends of a report are read with their dates. -/
theorem exists_datedCosts {rows : List SpendRecord} (precision : Nat)
    (hrows : ∀ row ∈ rows, ∃ date, IsOn row date) :
    ∃ costs, datedCosts precision rows = .ok costs ∧
      (∀ date, date ∈ costs.map (·.1) ↔ ∃ row ∈ rows, IsOn row date) ∧
      costs.map (fun entry => (entry.1.key, entry.2)) =
        rows.map fun row => (row.dateKey, row.cost) := by
  induction rows with
  | nil => exact ⟨[], rfl, by simp, rfl⟩
  | cons row rest ih =>
      obtain ⟨⟨date, hon⟩, hrest⟩ := List.forall_mem_cons.mp hrows
      obtain ⟨costs, hcosts, hdates, hsame⟩ := ih hrest
      refine ⟨(date, row.cost) :: costs, ?_, fun other => ?_, ?_⟩
      · rw [datedCosts, mapM_eq_ok] at hcosts ⊢
        rw [List.map_cons, List.map_cons, hcosts, hon.1, hon.2.1, hon.2.2, Date.ofNumbers_fields]
        rfl
      · have hfirst : other = date ↔ IsOn row other := ⟨fun h => h ▸ hon, fun h => h.unique hon⟩
        rw [List.map_cons, List.mem_cons, hdates, List.exists_mem_cons_iff, hfirst]
      · rw [List.map_cons, List.map_cons, hsame, hon.dateKey_eq]

/-- What was spent on a day is what the spends with the key of the day cost together. -/
theorem spentOn_eq {costs : List (Date × Money)} {rows : List SpendRecord}
    (hsame : costs.map (fun entry => (entry.1.key, entry.2)) =
      rows.map fun row => (row.dateKey, row.cost)) (precision : Nat) (date : Date) :
    spentOn precision costs date =
      ((rows.filter (·.dateKey = date.key)).map (·.cost)).foldl (· + ·) (.zero precision) := by
  have hcosts : (costs.filter (·.1 = date)).map (·.2) =
      (rows.filter (·.dateKey = date.key)).map (·.cost) := by
    have hfiltered := congrArg
      (fun pairs => (pairs.filter (·.1 = date.key)).map (·.2)) hsame
    simp only [List.filter_map, List.map_map, Function.comp_def, Date.key_inj] at hfiltered
    exact hfiltered
  rw [spentOn, hcosts]

/-! ## The days of a period -/

theorem visitDays_of_past {last day : Date} (hpast : last.Precedes day) (precision : Int)
    (visited : List Date) : visitDays precision last visited day = .ok visited.reverse := by
  rw [visitDays, dif_pos (Date.before_iff.mpr hpast)]

theorem visitDays_of_not_past {last day : Date} (hday : ¬ last.Precedes day) (precision : Nat)
    (visited : List Date) :
    visitDays precision last visited day =
      match day.next? with
      | some next => visitDays precision last (day :: visited) next
      | none => .error .outOfRange := by
  have hzero : Money.make 0 precision = .ok (.zero precision) := rfl
  rw [visitDays, dif_neg (mt Date.before_iff.mp hday), hzero]
  simp only [bind, Except.bind]
  split <;> simp only [*]

/-- The loop visits the days that lie on the way through the calendar. -/
theorem visitDays_of_stepsThrough {last day : Date} {days : List Date}
    (h : Date.StepsThrough last day days) (precision : Nat) (visited : List Date) :
    visitDays precision last visited day = .ok (visited.reverse ++ days) := by
  induction h generalizing visited with
  | past hpast => rw [visitDays_of_past hpast, List.append_nil]
  | visit hday hnext _ ih =>
      rw [visitDays_of_not_past hday, hnext]
      simp only [ih, List.reverse_cons, List.append_assoc, List.singleton_append]

/-- A period after whose last day the calendar goes on can be reported. -/
theorem visitDays_eq_ok {first last : Date} (precision : Nat) (hordered : first.key ≤ last.key)
    (hnext : last.next? ≠ none) : visitDays precision last [] first = .ok (first.upTo last) := by
  obtain ⟨days, hsteps⟩ := Date.StepsThrough.exists_iff.mpr (mt Date.next?_eq_none_iff.mpr hnext)
  rw [visitDays_of_stepsThrough hsteps, hsteps.upTo_eq hordered]
  rfl

/-- A loop that would have to pass the last day of the calendar fails. -/
theorem visitDays_lastDay (precision : Nat) (visited : List Date) (day : Date) :
    visitDays precision Date.lastDay visited day = .error .outOfRange := by
  have hday : ¬ Date.lastDay.Precedes day := Date.not_lastDay_precedes day
  induction visited, day using visitDays.induct Date.lastDay with
  | case1 visited day hpast => exact absurd (Date.before_iff.mp hpast) hday
  | case2 visited day _ ih =>
      rw [visitDays_of_not_past hday]
      split
      next next hnext => exact ih next hnext (Date.not_lastDay_precedes next)
      next => rfl

/-- A period whose days are listed in order, and after which the calendar goes on, is reported day
by day if all spends fall into it. -/
theorem spentByDay_eq_ok {rows : List SpendRecord} {first last : Date} (precision : Nat)
    (hordered : first.key ≤ last.key) (hnext : last.next? ≠ none)
    (hdays : (first.upTo last).Pairwise fun a b => a.key < b.key)
    (hrows : ∀ row ∈ rows, ∃ date ∈ first.upTo last, IsOn row date) :
    spentByDay rows first last precision =
      .ok ((first.upTo last).map fun date =>
        (date, ((rows.filter (·.dateKey = date.key)).map (·.cost)).foldl (· + ·)
          (.zero precision))) := by
  obtain ⟨costs, hcosts, hon, hsame⟩ := exists_datedCosts precision fun row hrow =>
    (hrows row hrow).imp fun _ => And.right
  have hdates : costs.map (·.1) ⊆ first.upTo last := by
    intro date hdate
    obtain ⟨row, hrow, hrowDate⟩ := (hon date).mp hdate
    obtain ⟨day, hday, hrowDay⟩ := hrows row hrow
    exact hrowDate.unique hrowDay ▸ hday
  rw [spentByDay, hcosts, visitDays_eq_ok precision hordered hnext]
  change Except.ok ((distinctDates (costs.map (·.1) ++ first.upTo last)).map fun date =>
    (date, spentOn precision costs date)) = _
  rw [distinctDates_append hdays hdates]
  simp only [spentOn_eq hsame]

end Allowance.Statistics
