import Allowance.SpendType.Hierarchy

/-!
# Forests of spend types

Spend types form a forest if the walk from each of them over its parents comes to the number of no
spend type. Such a walk never returns to a type. The walk that looks for a cycle is bounded, but
what it answers is right for hierarchies of any depth: it fails where its bound does not suffice.
-/

namespace Allowance.SpendType

/-- The number that is reached by following parents a number of times. -/
def ascend (types : List SpendType) : Nat → Int → Option Int
  | 0, id => some id
  | steps + 1, id => (parentOf? types id).bind (ascend types steps)

/-- The walk over parents comes to an end at the number of no spend type. -/
inductive Rooted (types : List SpendType) : Int → Prop where
  | root : Rooted types noType
  | child {id parent : Int} (hparent : parentOf? types id = some parent)
      (h : Rooted types parent) : Rooted types id

/-- Every spend type is on a walk that comes to an end. -/
def IsForest (types : List SpendType) : Prop :=
  ∀ type ∈ types, Rooted types type.id

/-! ## Walks -/

variable {types : List SpendType}

theorem ascend_succ (steps : Nat) (id : Int) :
    ascend types (steps + 1) id = (ascend types steps id).bind (parentOf? types) := by
  induction steps generalizing id with
  | zero => simp [ascend]
  | succ steps ih =>
      rw [ascend]
      cases hparent : parentOf? types id with
      | none => simp [ascend, hparent]
      | some parent =>
          rw [Option.bind_some, ih, ascend, hparent, Option.bind_some]

theorem Rooted.ascend_eq {id : Int} (h : Rooted types id) :
    ∃ steps, ascend types steps id = some noType := by
  induction h with
  | root => exact ⟨0, rfl⟩
  | child hparent _ ih =>
      obtain ⟨steps, hsteps⟩ := ih
      refine ⟨steps + 1, ?_⟩
      rw [ascend, hparent, Option.bind_some, hsteps]

/-- A walk that comes to an end does not return: otherwise its next number would return as well. -/
theorem Rooted.ascend_ne (hroot : parentOf? types noType = none) {id : Int} (h : Rooted types id)
    (steps : Nat) : ascend types (steps + 1) id ≠ some id := by
  induction h generalizing steps with
  | root => simp [ascend, hroot]
  | @child id parent hparent _ ih =>
      intro hreturn
      apply ih steps
      rw [ascend, hparent, Option.bind_some] at hreturn
      rw [ascend_succ, hreturn, Option.bind_some, hparent]

/-- In a forest no number comes back on its own walk, known or unknown. -/
theorem IsForest.ascend_ne (h : IsForest types) (hroot : parentOf? types noType = none)
    (hknown : ∀ id parent, parentOf? types id = some parent → ∃ type ∈ types, type.id = id)
    (id : Int) (steps : Nat) : ascend types (steps + 1) id ≠ some id := by
  cases hparent : parentOf? types id with
  | none => simp [ascend, hparent]
  | some parent =>
      obtain ⟨type, htype, rfl⟩ := hknown id parent hparent
      exact (h type htype).ascend_ne hroot steps

/-! ## Changes -/

variable {others : List SpendType}

/-- A walk stays if no parent on it changes. -/
theorem Rooted.mono {id : Int} (h : Rooted types id)
    (hkept : ∀ id parent, parentOf? types id = some parent → parentOf? others id = some parent) :
    Rooted others id := by
  induction h with
  | root => exact .root
  | child hparent _ ih => exact .child (hkept _ _ hparent) ih

/-- A search that does not meet the subject has found a walk that comes to an end without it, so
that the walk is still there whatever becomes of the subject. -/
theorem rooted_of_meets {subject current : Int} {steps : Nat}
    (hkept : ∀ id parent, id ≠ subject → parentOf? types id = some parent →
      parentOf? others id = some parent)
    (hmeets : meets types subject steps current = .ok false) : Rooted others current := by
  induction steps generalizing current with
  | zero => cases hmeets
  | succ steps ih =>
      unfold meets at hmeets
      split at hmeets
      next => cases hmeets
      next parent hparent =>
        split at hmeets
        next => cases hmeets
        next hne =>
          refine .child (hkept current parent hne hparent) ?_
          split at hmeets
          next hroot =>
            rw [hroot]
            exact .root
          next => exact ih hmeets

/-- If a type may move under a parent, then the parent is on a walk without it. -/
theorem rooted_of_hasCycle {subject parent : Int}
    (hkept : ∀ id parent, id ≠ subject → parentOf? types id = some parent →
      parentOf? others id = some parent)
    (hcycle : hasCycle types subject parent = .ok false) : Rooted others parent := by
  unfold hasCycle at hcycle
  split at hcycle
  next hroot =>
    rw [hroot]
    exact .root
  next => exact rooted_of_meets hkept hcycle

/-- Moving one type under a parent whose walk avoids it keeps every walk that comes to an end: it
goes on as before, or it now turns to that parent at the moved type. -/
theorem Rooted.move {subject target id : Int} (h : Rooted types id)
    (hkept : ∀ id parent, id ≠ subject → parentOf? types id = some parent →
      parentOf? others id = some parent)
    (hmoved : parentOf? others subject = some target) (htarget : Rooted others target) :
    Rooted others id := by
  induction h with
  | root => exact .root
  | @child id parent hparent _ ih =>
      by_cases hid : id = subject
      · subst hid
        exact .child hmoved htarget
      · exact .child (hkept id parent hid hparent) ih

end Allowance.SpendType
