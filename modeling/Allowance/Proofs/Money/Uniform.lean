import Mathlib.Algebra.BigOperators.Group.List.Basic
import Mathlib.Algebra.Ring.Int.Defs
import Allowance.Money.Scale

/-!
# Money of one precision

As long as all amounts have the same number of digits, arithmetic on money is arithmetic on minor
units, and no step has to align anything.
-/

namespace Allowance.Money

variable (a b : Int) (precision : Nat)

theorem eq_mk {m : Money} {precision : Nat} (h : m.precision = precision) :
    m = ⟨m.amount, precision⟩ :=
  congrArg (mk m.amount) h

@[simp] theorem extend_zero (m : Money) : m.extend 0 = m := by
  simp [extend, Number.tenPow_zero]

@[simp] theorem align_mk :
    align ⟨a, precision⟩ ⟨b, precision⟩ = (⟨a, precision⟩, ⟨b, precision⟩) := by
  simp [align]

@[simp] theorem add_mk : (⟨a, precision⟩ + ⟨b, precision⟩ : Money) = ⟨a + b, precision⟩ := by
  change add _ _ = _
  simp [add]

@[simp] theorem sub_mk : (⟨a, precision⟩ - ⟨b, precision⟩ : Money) = ⟨a - b, precision⟩ := by
  change sub _ _ = _
  simp [sub]

@[simp] theorem atMost_mk : atMost ⟨a, precision⟩ ⟨b, precision⟩ = decide (a ≤ b) := by
  rw [Bool.eq_iff_iff, decide_eq_true_eq, Int.le_iff_lt_or_eq]
  simp [atMost, less, same]

@[simp] theorem minorUnits_mk : minorUnits ⟨a, precision⟩ precision = .ok a := by
  simp [minorUnits, Number.tenPow_zero]

theorem foldl_add_mk (units : List Int) :
    (units.map (⟨·, precision⟩)).foldl (· + ·) (⟨a, precision⟩ : Money) =
      ⟨a + units.sum, precision⟩ := by
  induction units generalizing a with
  | nil => simp
  | cons first rest ih =>
      rw [List.map_cons, List.foldl_cons, add_mk, ih, List.sum_cons, Int.add_assoc]

/-- Amounts of one precision add up in any order. -/
theorem foldl_add_of_perm {costs : List Money} {units : List Int} {precision : Nat}
    (hperm : costs.Perm (units.map (⟨·, precision⟩))) :
    costs.foldl (· + ·) (zero precision) = ⟨units.sum, precision⟩ := by
  have hcosts : costs = (costs.map (·.amount)).map (⟨·, precision⟩) := by
    rw [List.map_map]
    conv_lhs => rw [← List.map_id costs]
    apply List.map_congr_left
    intro cost hcost
    obtain ⟨amount, _, rfl⟩ := List.mem_map.mp (hperm.mem_iff.mp hcost)
    rfl
  have hunits : (costs.map (·.amount)).Perm units := by
    simpa [Function.comp_def] using hperm.map (·.amount)
  rw [hcosts, zero, foldl_add_mk, Int.zero_add, hunits.sum_eq]

/-- A sum of amounts of one precision has that precision, the empty one included. -/
theorem total_mk (units : List Int) :
    total precision (units.map (⟨·, precision⟩)) = ⟨units.sum, precision⟩ := by
  cases units with
  | nil => rfl
  | cons first rest =>
      rw [List.map_cons, total, foldl_add_mk, List.sum_cons]

theorem totalAt_mk (units : List Int) :
    totalAt precision (units.map (⟨·, precision⟩)) = .ok ⟨units.sum, precision⟩ := by
  cases units with
  | nil => rfl
  | cons first rest =>
      have htotal := total_mk precision (first :: rest)
      rw [List.map_cons] at htotal ⊢
      rw [totalAt, Int.toNat_natCast, htotal]
      exact fun hnil => List.cons_ne_nil _ _ hnil

theorem divide_mk {count : Int} (hcount : 0 < count) :
    divide ⟨a, precision⟩ count = .ok ⟨a.tdiv count, precision⟩ := by
  rw [divide, if_neg (by omega)]

end Allowance.Money
