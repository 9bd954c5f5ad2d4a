import Mathlib.Logic.Basic
import Allowance.Search.Select

/-!
# What a statement selects

A condition that is not known to hold does not select: a clause is met if one of its conditions is
known to hold, and a row is selected if it meets every clause. Bounds on a number that is stored
select as the bounds on that number do.
-/

namespace Allowance.Search

theorem both?_eq_true {a b : Option Bool} :
    both? a b = some true ↔ a = some true ∧ b = some true := by
  rcases a with _ | _ | _ <;> rcases b with _ | _ | _ <;> decide

theorem either?_eq_true {a b : Option Bool} :
    either? a b = some true ↔ a = some true ∨ b = some true := by
  rcases a with _ | _ | _ <;> rcases b with _ | _ | _ <;> decide

theorem both?_some (a b : Bool) : both? (some a) (some b) = some (a && b) := by
  cases a <;> cases b <;> rfl

variable {fits : Matcher} {row : Row}

theorem Clause.isMet_iff {clause : Clause} :
    clause.isMet fits row = true ↔
      ∃ condition ∈ clause.conditions, condition.holds? fits row = some true := by
  rw [isMet, beq_iff_eq, holds?]
  induction clause.conditions with
  | nil => simp
  | cons condition rest ih => simp [either?_eq_true, ih]

theorem Select.selects_iff {select : Select} :
    select.selects fits row = true ↔ ∀ clause ∈ select.clauses, clause.isMet fits row = true := by
  rw [selects, beq_iff_eq]
  induction select.clauses with
  | nil => simp
  | cons clause rest ih =>
      rw [List.foldr_cons, both?_eq_true, ih, List.forall_mem_cons, Clause.isMet, beq_iff_eq]

/-! ## Bounds -/

theorem atMost?_integer (i j : Int) :
    Cell.atMost? (.integer i) (.integer j) = some (decide (i ≤ j)) := by
  have hcompare : (compareOfLessAndEq i j != .gt) = decide (i ≤ j) := by
    unfold compareOfLessAndEq
    split
    next hlt => exact (decide_eq_true (Int.le_of_lt hlt)).symm
    next hnlt =>
      split
      next heq => exact (decide_eq_true (Int.le_of_eq heq)).symm
      next hne => exact (decide_eq_false (by omega)).symm
  rw [Cell.atMost?, if_neg (by simp), Cell.compare, hcompare]

/-- Bounds of which one is given select the rows whose number lies within them. -/
theorem holds?_boundsOf {term : Term} {value : Int} (hvalue : term.value row = .integer value)
    {low high : Option Int} (hgiven : low.isSome ∨ high.isSome) :
    (boundsOf term low high).holds? fits row =
      some (low.all (· ≤ value) && high.all (value ≤ ·)) := by
  cases low with
  | none =>
      cases high with
      | none => simp at hgiven
      | some high => simp [boundsOf, Condition.holds?, hvalue, atMost?_integer]
  | some low =>
      cases high with
      | none => simp [boundsOf, Condition.holds?, hvalue, atMost?_integer]
      | some high => simp [boundsOf, Condition.holds?, hvalue, atMost?_integer, both?_some]

theorem parameters_boundsOf {term : Term} {low high : Option Int}
    (hgiven : low.isSome ∨ high.isSome) {cell : Cell}
    (hcell : cell ∈ (boundsOf term low high).parameters) :
    ∃ bound, (low = some bound ∨ high = some bound) ∧ cell = .integer bound := by
  cases low with
  | none =>
      cases high with
      | none => simp at hgiven
      | some high => simpa [boundsOf, Condition.parameters] using hcell
  | some low =>
      cases high with
      | none => simpa [boundsOf, Condition.parameters] using hcell
      | some high => simpa [boundsOf, Condition.parameters] using hcell

/-! ## Long patterns -/

theorem reachesLongPattern_eq_false {clauses : List Clause}
    (hshort : ∀ clause ∈ clauses, ∀ condition ∈ clause.conditions,
      condition.isTooComplex = false) :
    Select.reachesLongPattern fits row clauses = false := by
  induction clauses with
  | nil => rfl
  | cons clause rest ih =>
      obtain ⟨hclause, hrest⟩ := List.forall_mem_cons.mp hshort
      have hnone : clause.conditions.any (·.isTooComplex) = false := by
        rw [List.any_eq_false]
        intro condition hcondition
        rw [hclause condition hcondition]
        exact Bool.false_ne_true
      rw [Select.reachesLongPattern, hnone, ih hrest, Bool.and_false, Bool.or_false]

end Allowance.Search
