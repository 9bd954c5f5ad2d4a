import Mathlib.Data.List.Basic
import Allowance.Proofs.Calendar.Month

/-!
# The days of a period

A date is found from its year, month and day, and dates are ordered as their keys are. From a day
of a month to a later day of the same month, a period has the days in between, in order.
-/

namespace Allowance.Date

open Calendar

theorem eq_of_fields {a b : Date} (hyear : a.year = b.year) (hmonth : a.month = b.month)
    (hday : a.day = b.day) : a = b := by
  obtain ⟨year, month, day, _⟩ := a
  obtain ⟨_, _, _, _⟩ := b
  subst hyear hmonth hday
  rfl

theorem ofFields?_fields (date : Date) :
    ofFields? date.year date.month date.day = some date := by
  rw [ofFields?, dif_pos date.isDate]

/-- Month and day stay below the places that they have in a key. -/
theorem bounds (date : Date) :
    (1 ≤ date.year ∧ date.year ≤ 9999) ∧ (1 ≤ date.month ∧ date.month ≤ 12) ∧
      (1 ≤ date.day ∧ date.day ≤ 31) := by
  obtain ⟨hyear, hlast, hmonth, hdecember, hday, hend⟩ := date.isDate
  exact ⟨⟨hyear, hlast⟩, ⟨hmonth, hdecember⟩, hday, hend.trans (monthLength_bounds _ _).2⟩

theorem ofNumbers_fields (date : Date) :
    ofNumbers date.year date.month date.day = .ok date := by
  have hbounds := date.bounds
  have hlimit : ¬ ([(date.year : Int), date.month, date.day].any fun n =>
      n < -fieldLimit || fieldLimit ≤ n) = true := by
    simp only [List.any_eq_true, List.mem_cons, List.not_mem_nil, or_false, Bool.or_eq_true,
      decide_eq_true_eq]
    unfold fieldLimit
    rintro ⟨n, rfl | rfl | rfl, hn⟩ <;> omega
  rw [ofNumbers, if_neg hlimit, if_neg (by omega)]
  simp only [Int.toNat_natCast, ofFields?_fields]

theorem key_inj {a b : Date} : a.key = b.key ↔ a = b := by
  constructor
  · intro h
    have ha := a.bounds
    have hb := b.bounds
    unfold key at h
    apply eq_of_fields <;> omega
  · rintro rfl
    rfl

/-- The order of the calendar: by year, in a year by month, and in a month by day. -/
def Precedes (a b : Date) : Prop :=
  a.year < b.year ∨ a.year = b.year ∧ (a.month < b.month ∨ a.month = b.month ∧ a.day < b.day)

/-- Month and day never reach the place of the year in a key, nor the day that of the month. -/
theorem key_lt_iff {a b : Date} : a.key < b.key ↔ a.Precedes b := by
  have ha := a.bounds
  have hb := b.bounds
  unfold key Precedes
  omega

theorem before_iff {a b : Date} : a.before b = true ↔ a.Precedes b := by
  rw [before, decide_eq_true_eq, key_lt_iff]

/-! ## Stepping through a month -/

theorem exists_next {date : Date} (hday : date.day < monthLength date.year date.month) :
    ∃ next, date.next? = some next ∧ next.year = date.year ∧ next.month = date.month ∧
      next.day = date.day + 1 := by
  obtain ⟨hyear, hlast, hmonth, hdecember, _, _⟩ := date.isDate
  have hnext : IsDate date.year date.month (date.day + 1) :=
    ⟨hyear, hlast, hmonth, hdecember, by omega, hday⟩
  refine ⟨⟨date.year, date.month, date.day + 1, hnext⟩, ?_, rfl, rfl, rfl⟩
  rw [next?, ofFields?, dif_pos hnext, Option.some_or]

theorem ofFields?_eq_none {year month day : Nat} :
    ofFields? year month day = none ↔ ¬ IsDate year month day := by
  unfold ofFields?
  split <;> simp_all

theorem isDate_first {year month : Nat} (hyear : 1 ≤ year ∧ year ≤ lastYear)
    (hmonth : 1 ≤ month ∧ month ≤ 12) : IsDate year month 1 :=
  ⟨hyear.1, hyear.2, hmonth.1, hmonth.2, le_rfl, (monthLength_bounds _ _).1.trans' (by decide)⟩

theorem sameMonth_eq_none_iff {date : Date} :
    ofFields? date.year date.month (date.day + 1) = none ↔
      date.day = monthLength date.year date.month := by
  obtain ⟨hyear, hlast, hmonth, hdecember, hday, hend⟩ := date.isDate
  rw [ofFields?_eq_none, IsDate]
  omega

theorem sameYear_eq_none_iff {date : Date} :
    ofFields? date.year (date.month + 1) 1 = none ↔ date.month = 12 := by
  obtain ⟨hyear, hlast, hmonth, hdecember, _, _⟩ := date.isDate
  rw [ofFields?_eq_none]
  constructor
  · intro hnone
    by_contra hne
    exact hnone (isDate_first ⟨hyear, hlast⟩ ⟨by omega, by omega⟩)
  · rintro htwelve ⟨_, _, _, hdecember, _⟩
    omega

theorem newYear_eq_none_iff {date : Date} :
    ofFields? (date.year + 1) 1 1 = none ↔ date.year = lastYear := by
  obtain ⟨hyear, hlast, _⟩ := date.isDate
  rw [ofFields?_eq_none]
  constructor
  · intro hnone
    by_contra hne
    exact hnone (isDate_first ⟨by omega, by omega⟩ (by decide))
  · rintro hfinal ⟨_, hlast, _⟩
    omega

/-- The last day of the calendar. -/
def lastDay : Date := ⟨lastYear, 12, 31, by decide⟩

/-- The calendar goes on after every day but the last one. -/
theorem next?_eq_none_iff {date : Date} : date.next? = none ↔ date = lastDay := by
  rw [next?, Option.or_eq_none_iff, Option.or_eq_none_iff, sameMonth_eq_none_iff,
    sameYear_eq_none_iff, newYear_eq_none_iff]
  constructor
  · rintro ⟨hfull, htwelve, hfinal⟩
    rw [htwelve] at hfull
    exact eq_of_fields hfinal htwelve hfull
  · rintro rfl
    decide

/-- The calendar goes on after every day of a month that has a successor. -/
theorem next?_ne_none {date : Date} {days : Nat}
    (hdays : daysInMonth date.year date.month = .ok days) : date.next? ≠ none := by
  intro hnone
  obtain rfl := next?_eq_none_iff.mp hnone
  cases hdays

/-- The dates from the first to the last, both included. -/
def upTo (first last : Date) : List Date :=
  following (last.ordinal + 1 - first.ordinal) first

/-- The days of a month are one another's successors. -/
theorem following_eq {date : Date} {count : Nat}
    (hcount : date.day + count ≤ monthLength date.year date.month + 1) :
    (following count date).map (fun day => (day.year, day.month, day.day)) =
      (List.range count).map fun i => (date.year, date.month, date.day + i) := by
  induction count generalizing date with
  | zero => rfl
  | succ count ih =>
      have hfirst : (date.year, date.month, date.day) = (date.year, date.month, date.day + 0) := rfl
      rw [List.range_succ_eq_map, List.map_cons, List.map_map, ← hfirst]
      cases count with
      | zero =>
          -- A single day is listed whether the calendar goes on after it or not.
          rw [following]
          split <;> rfl
      | succ count =>
          have hlater : date.day < monthLength date.year date.month := by omega
          obtain ⟨next, hnext, hyear, hmonth, hday⟩ := exists_next hlater
          rw [following, hnext]
          dsimp only
          rw [List.map_cons, ih (by rw [hyear, hmonth, hday]; omega), hyear, hmonth, hday]
          congr 1
          apply List.map_congr_left
          intro i _
          simp only [Function.comp_apply, Nat.succ_eq_add_one, Prod.mk.injEq, true_and]
          omega

/-- A period within a month consists of the days of the month from its first to its last day. -/
theorem upTo_eq {first last : Date} (hyear : last.year = first.year)
    (hmonth : last.month = first.month) (hday : first.day ≤ last.day) :
    (first.upTo last).map (fun day => (day.year, day.month, day.day)) =
      (List.range (last.day + 1 - first.day)).map fun i =>
        (first.year, first.month, first.day + i) := by
  have hordinal : last.ordinal + 1 - first.ordinal = last.day + 1 - first.day := by
    simp only [ordinal, dayOfYear, hyear, hmonth]
    omega
  have hlast := last.isDate.2.2.2.2.2
  rw [hyear, hmonth] at hlast
  rw [upTo, hordinal]
  exact following_eq (by omega)

end Allowance.Date
