import Allowance.Calendar.Month
import Allowance.Proofs.Outcome

/-!
# The lengths of months

A month has its length only if the month after it lies in the calendar as well, so the very last
month has none. Every length is that of the Gregorian calendar.
-/

namespace Allowance.Calendar

theorem ofNumbers_eq_ok {year month day : Int} {date : Date}
    (h : Date.ofNumbers year month day = .ok date) :
    year = date.year ∧ month = date.month ∧ day = date.day := by
  unfold Date.ofNumbers at h
  split at h
  next => cases h
  next =>
    split at h
    next => cases h
    next hsign =>
      split at h
      next found hfound =>
        cases h
        obtain ⟨hyear, hmonth, hday⟩ := Date.fields_of_ofFields? hfound
        omega
      next => cases h

/-- A month that has a length is a month of the calendar, and the length is its Gregorian one. -/
theorem daysInMonth_eq_ok {year month : Int} {days : Nat}
    (h : daysInMonth year month = .ok days) :
    (1 ≤ year ∧ year ≤ lastYear) ∧ (1 ≤ month ∧ month ≤ 12) ∧
      days = monthLength year.toNat month.toNat := by
  unfold daysInMonth at h
  obtain ⟨first, hfirst, hdays⟩ := Outcome.bind_eq_ok.mp h
  unfold firstOfNextMonth at hfirst
  obtain ⟨date, hdate, _⟩ := Outcome.bind_eq_ok.mp hfirst
  obtain ⟨hyear, hmonth, _⟩ := ofNumbers_eq_ok hdate
  obtain ⟨hyear₁, hyear₂, hmonth₁, hmonth₂, _⟩ := date.isDate
  refine ⟨by omega, by omega, ?_⟩
  exact Outcome.pure_eq_ok.mp hdays

end Allowance.Calendar
