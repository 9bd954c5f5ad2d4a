import Mathlib.Algebra.BigOperators.Group.List.Basic
import Allowance.Money.Scale
import Allowance.Proofs.Money.Arithmetic

/-!
# Sums of amounts

The sum of a list of amounts has the sum of their values, at the largest of their precisions. So the
order of the amounts is of no account, not even for the precision.
-/

namespace Allowance.Money

/-- The sum of the values of amounts. -/
def valueSum (values : List Money) : ℚ :=
  (values.map value).sum

/-- The precision of a sum: the largest one of the amounts, or the given one if there are none. -/
def sumPrecision (precision : Nat) (values : List Money) : Nat :=
  (values.map (·.precision)).max?.getD precision

variable {precision : Nat} {values other : List Money}

theorem valueSum_cons (first : Money) (rest : List Money) :
    valueSum (first :: rest) = first.value + valueSum rest := by
  rw [valueSum, List.map_cons, List.sum_cons, valueSum]

theorem value_foldl_add (a : Money) (values : List Money) :
    (values.foldl (· + ·) a).value = a.value + valueSum values := by
  induction values generalizing a with
  | nil => simp [valueSum]
  | cons first rest ih => rw [List.foldl_cons, ih, value_add, valueSum_cons, add_assoc]

theorem value_total (precision : Nat) (values : List Money) :
    (total precision values).value = valueSum values := by
  cases values with
  | nil => exact value_zero precision
  | cons first rest => rw [total, value_foldl_add, valueSum_cons]

theorem precision_foldl_add (a : Money) (values : List Money) :
    (values.foldl (· + ·) a).precision = (values.map (·.precision)).foldl max a.precision := by
  induction values generalizing a with
  | nil => rfl
  | cons first rest ih => rw [List.foldl_cons, ih, precision_add, List.map_cons, List.foldl_cons]

theorem precision_total (precision : Nat) (values : List Money) :
    (total precision values).precision = sumPrecision precision values := by
  cases values with
  | nil => rfl
  | cons first rest =>
      rw [total, precision_foldl_add, sumPrecision, List.map_cons, List.max?_cons',
        Option.getD_some]

/-- The largest precision is the same in whatever order the amounts stand. -/
theorem sumPrecision_of_perm (h : values.Perm other) :
    sumPrecision precision values = sumPrecision precision other := by
  have hmax : (values.map (·.precision)).max? = (other.map (·.precision)).max? := by
    apply Option.ext
    intro bound
    simp only [List.max?_eq_some_iff, (h.map (·.precision)).mem_iff]
  rw [sumPrecision, sumPrecision, hmax]

theorem total_of_perm (h : values.Perm other) :
    total precision values = total precision other := by
  apply eq_of_value
  · rw [precision_total, precision_total, sumPrecision_of_perm h]
  · rw [value_total, value_total, valueSum, valueSum, (h.map value).sum_eq]

/-- A sum of amounts of one precision has it too, and so has the empty one. -/
theorem sumPrecision_eq (h : ∀ m ∈ values, m.precision = precision) :
    sumPrecision precision values = precision := by
  cases values with
  | nil => rfl
  | cons first rest =>
      have hmax : ((first :: rest).map (·.precision)).max? = some precision := by
        rw [List.max?_eq_some_iff]
        constructor
        · exact List.mem_map.mpr ⟨first, List.mem_cons_self, h first List.mem_cons_self⟩
        · intro bound hbound
          obtain ⟨m, hm, rfl⟩ := List.mem_map.mp hbound
          exact (h m hm).le
      rw [sumPrecision, hmax, Option.getD_some]

/-- At a precision that can be used, every sum exists. -/
theorem totalAt_natCast (precision : Nat) (values : List Money) :
    totalAt precision values = .ok (total precision values) := by
  cases values <;> rfl

end Allowance.Money
