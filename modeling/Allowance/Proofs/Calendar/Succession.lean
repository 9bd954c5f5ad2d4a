import Allowance.Proofs.Calendar.Period

/-!
# Stepping through the calendar

No date lies between a day and the following one, across the ends of months and years as well. So
the days that are visited from a first to a last day are exactly the dates from the one to the
other, and their number is the difference of the two days' places in the calendar.
-/

namespace Allowance.Date

open Calendar

variable {date next first last : Date} {days : List Date}

/-! ## The following day -/

/-- The following day is the next one of the month, the first one of the next month, or the first
one of the next year. -/
theorem of_next?_eq_some (h : date.next? = some next) :
    (next.year = date.year ∧ next.month = date.month ∧ next.day = date.day + 1) ∨
      date.day = monthLength date.year date.month ∧ next.day = 1 ∧
        (next.year = date.year ∧ next.month = date.month + 1 ∨
          date.month = 12 ∧ next.year = date.year + 1 ∧ next.month = 1) := by
  rw [next?, Option.or_eq_some_iff, Option.or_eq_some_iff, sameMonth_eq_none_iff,
    sameYear_eq_none_iff] at h
  rcases h with hnext | ⟨hfull, hnext | ⟨htwelve, hnext⟩⟩
  · exact .inl (fields_of_ofFields? hnext)
  · obtain ⟨hyear, hmonth, hday⟩ := fields_of_ofFields? hnext
    exact .inr ⟨hfull, hday, .inl ⟨hyear, hmonth⟩⟩
  · obtain ⟨hyear, hmonth, hday⟩ := fields_of_ofFields? hnext
    exact .inr ⟨hfull, hday, .inr ⟨htwelve, hyear, hmonth⟩⟩

/-- The dates before the following day are those up to the day itself. -/
theorem key_lt_next_iff (h : date.next? = some next) (other : Date) :
    other.key < next.key ↔ other.key ≤ date.key := by
  have hdate := date.bounds
  have hother := other.bounds
  have hmonth : other.year = date.year → other.month = date.month →
      other.day ≤ monthLength date.year date.month := by
    intro hy hm
    rw [← hy, ← hm]
    exact other.isDate.2.2.2.2.2
  unfold key
  rcases of_next?_eq_some h with ⟨hy, hm, hd⟩ | ⟨hfull, hd, ⟨hy, hm⟩ | ⟨htwelve, hy, hm⟩⟩ <;>
    rw [hy, hm, hd] <;> omega

/-- The number of days in the first years of the calendar. -/
def daysOfYears (years : Nat) : Nat :=
  years * 365 + years / 4 - years / 100 + years / 400

theorem ordinal_eq (date : Date) :
    date.ordinal =
      daysOfYears (date.year - 1) + (daysBefore date.year (date.month - 1) + date.day) :=
  rfl

/-- The numbers of leap years before a year and up to it differ just if it is one itself. -/
theorem daysOfYears_succ (years : Nat) :
    daysOfYears (years + 1) = daysOfYears years + yearLength (years + 1) := by
  have hrare : years / 100 ≤ years / 4 := Nat.div_le_div_left (by decide) (by decide)
  simp only [daysOfYears, Nat.succ_div, Nat.dvd_iff_mod_eq_zero, yearLength, isLeapYear,
    Bool.and_eq_true, Bool.or_eq_true, beq_iff_eq, bne_iff_ne]
  split_ifs <;> omega

/-- The months of a year make up the year. -/
theorem daysBefore_december (year : Nat) :
    daysBefore year 11 + monthLength year 12 = yearLength year := by
  cases hleap : isLeapYear year <;> simp [daysBefore, monthLength, yearLength, hleap]

theorem ordinal_next (h : date.next? = some next) : next.ordinal = date.ordinal + 1 := by
  obtain ⟨⟨hyear, _⟩, ⟨hmonth, _⟩, _⟩ := date.bounds
  rw [ordinal_eq, ordinal_eq]
  rcases of_next?_eq_some h with ⟨hy, hm, hd⟩ | ⟨hfull, hd, ⟨hy, hm⟩ | ⟨htwelve, hy, hm⟩⟩
  · rw [hy, hm, hd]
    omega
  · obtain ⟨months, hmonths⟩ := Nat.exists_eq_add_of_le' hmonth
    rw [hy, hm, hd, hfull, hmonths, Nat.add_sub_cancel, Nat.add_sub_cancel, daysBefore]
    omega
  · obtain ⟨years, hyears⟩ := Nat.exists_eq_add_of_le' hyear
    have hlength := daysBefore_december date.year
    rw [hyears] at hlength
    rw [hy, hm, hd, hfull, htwelve, hyears, Nat.add_sub_cancel, daysOfYears_succ,
      Nat.add_sub_cancel, ← hlength, daysBefore]

/-! ## Visiting the days of a period -/

/-- The days that are visited one after another from a day on, until a day is past the last one. No
days are listed if the calendar ends before that. -/
inductive StepsThrough (last : Date) : Date → List Date → Prop
  | past {day : Date} (hpast : last.Precedes day) : StepsThrough last day []
  | visit {day next : Date} {later : List Date} (hday : ¬ last.Precedes day)
      (hnext : day.next? = some next) (hlater : StepsThrough last next later) :
      StepsThrough last day (day :: later)

theorem key_le_lastDay (date : Date) : date.key ≤ lastDay.key := by
  have hdate := date.bounds
  change date.key ≤ 99991231
  unfold key
  omega

theorem not_lastDay_precedes (date : Date) : ¬ lastDay.Precedes date := by
  rw [← key_lt_iff, Int.not_lt]
  exact key_le_lastDay date

namespace StepsThrough

/-- From day to day the last one comes closer, so it is passed unless the calendar ends there. -/
theorem exists_iff : (∃ days, StepsThrough last first days) ↔ last ≠ lastDay := by
  constructor
  · rintro ⟨days, h⟩ rfl
    induction h with
    | past hpast => exact not_lastDay_precedes _ hpast
    | visit _ _ _ ih => exact ih
  · intro hlast
    obtain ⟨room, hroom⟩ : ∃ room : Nat, last.key < first.key + room :=
      ⟨(last.key - first.key + 1).toNat, by omega⟩
    -- Keys skip numbers between months, so they only bound how many days are left.
    induction room generalizing first with
    | zero => exact ⟨[], .past (key_lt_iff.mp (by omega))⟩
    | succ room ih =>
        by_cases hpast : last.Precedes first
        · exact ⟨[], .past hpast⟩
        · cases hnext : first.next? with
          | none =>
              obtain rfl := next?_eq_none_iff.mp hnext
              have hle := key_le_lastDay last
              rw [← key_lt_iff] at hpast
              exact absurd (key_inj.mp (by omega)) hlast
          | some next =>
              have hlater := key_lt_next hnext
              have hcloser : last.key < next.key + room := by omega
              obtain ⟨later, hsteps⟩ := ih hcloser
              exact ⟨first :: later, .visit hpast hnext hsteps⟩

theorem mem_iff (h : StepsThrough last first days) :
    date ∈ days ↔ first.key ≤ date.key ∧ date.key ≤ last.key := by
  induction h with
  | past hpast =>
      rw [← key_lt_iff] at hpast
      simp only [List.not_mem_nil, false_iff]
      omega
  | @visit day next later hday hnext _ ih =>
      have hgap := key_lt_next_iff hnext date
      rw [← key_lt_iff] at hday
      rw [List.mem_cons, ih, ← key_inj]
      omega

theorem following_length (h : StepsThrough last first days) :
    following days.length first = days := by
  induction h with
  | past => rfl
  | visit _ hnext _ ih =>
      rw [List.length_cons, following, hnext]
      exact congrArg (List.cons _) ih

/-- As many days are visited as the places of the first and the last day are apart. -/
theorem ordinal_eq (h : StepsThrough last first days) (hordered : first.key ≤ last.key) :
    last.ordinal + 1 = first.ordinal + days.length := by
  induction h with
  | past hpast =>
      rw [← key_lt_iff] at hpast
      omega
  | @visit day next later _ hnext hlater ih =>
      have hplace := ordinal_next hnext
      rw [List.length_cons]
      by_cases hend : next.key ≤ last.key
      · have := ih hend
        omega
      · -- No date lies between the day and the next one, so the day is the last one.
        have hgap := key_lt_next_iff hnext last
        obtain rfl : last = day := key_inj.mp (by omega)
        cases hlater with
        | past => rfl
        | visit hday =>
            rw [← key_lt_iff] at hday
            omega

/-- The days of a period are found without visiting it, from the number of its days alone. -/
theorem upTo_eq (h : StepsThrough last first days) (hordered : first.key ≤ last.key) :
    first.upTo last = days := by
  have hplaces := h.ordinal_eq hordered
  rw [upTo, hplaces, Nat.add_sub_cancel_left, h.following_length]

end StepsThrough

end Allowance.Date
