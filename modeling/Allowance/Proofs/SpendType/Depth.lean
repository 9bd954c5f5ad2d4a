import Allowance.Proofs.SpendType.Forest

/-!
# The depth of a forest of spend types

How many types stand on the chain from a spend type up to its root, and what becomes of the chains
when a type is added or moved. A search that lets a type move has followed the whole chain of the
new parent, so it bounds that chain, but not the chains that lead through the moved type.
-/

namespace Allowance.SpendType

/-- The chain from a spend type up to its root has a number of types, itself included. -/
def HasChain (types : List SpendType) (id : Int) (length : Nat) : Prop :=
  ascend types length id = some noType

instance (types : List SpendType) (id : Int) (length : Nat) :
    Decidable (HasChain types id length) := by
  unfold HasChain
  infer_instance

/-- No spend type has more ancestors than it is meant to have; they are its chain without itself. -/
def IsWithinDepth (types : List SpendType) : Prop :=
  ∀ type ∈ types, ∃ ancestors ≤ maxDepth, HasChain types type.id (ancestors + 1)

instance (types : List SpendType) : Decidable (IsWithinDepth types) := by
  unfold IsWithinDepth
  infer_instance

/-! ## Chains -/

variable {types others : List SpendType} {id : Int}

theorem ascend_add (first more : Nat) (id : Int) :
    ascend types (first + more) id = (ascend types first id).bind (ascend types more) := by
  induction first generalizing id with
  | zero => simp [ascend]
  | succ first ih =>
      rw [Nat.succ_add, ascend, ascend, Option.bind_assoc]
      exact congrArg _ (funext ih)

/-- The chain of a type has one length. -/
theorem HasChain.unique (hroot : parentOf? types noType = none) {first second : Nat}
    (hfirst : HasChain types id first) (hsecond : HasChain types id second) : first = second := by
  have hle {short long : Nat} (hshort : HasChain types id short) (hlong : HasChain types id long) :
      long ≤ short := by
    apply Nat.le_of_not_lt
    intro hlt
    obtain ⟨extra, rfl⟩ := Nat.exists_eq_add_of_lt hlt
    -- Behind the root there is nothing to follow.
    unfold HasChain at hshort hlong
    rw [Nat.add_assoc, ascend_add, hshort, Option.bind_some, ascend, hroot] at hlong
    cases hlong
  exact Nat.le_antisymm (hle hsecond hfirst) (hle hfirst hsecond)

theorem hasChain_noType : HasChain types noType 0 :=
  rfl

theorem HasChain.child {parent : Int} {length : Nat} (hparent : parentOf? types id = some parent)
    (h : HasChain types parent length) : HasChain types id (length + 1) := by
  rw [HasChain, ascend, hparent, Option.bind_some]
  exact h

/-- Following parents is as before as long as no parent on the way changes. -/
theorem ascend_mono
    (hkept : ∀ id parent, parentOf? types id = some parent → parentOf? others id = some parent)
    {steps : Nat} {target : Int} (h : ascend types steps id = some target) :
    ascend others steps id = some target := by
  induction steps generalizing id with
  | zero => exact h
  | succ steps ih =>
      obtain ⟨parent, hparent, hrest⟩ := Option.bind_eq_some_iff.mp h
      rw [ascend, hkept id parent hparent, Option.bind_some]
      exact ih hrest

/-! ## Searches -/

/-- A search that does not meet the subject has followed a whole chain, which is there whatever
becomes of the subject. -/
theorem exists_hasChain_of_meets {subject current : Int} {steps : Nat}
    (hkept : ∀ id parent, id ≠ subject → parentOf? types id = some parent →
      parentOf? others id = some parent)
    (hmeets : meets types subject steps current = .ok false) :
    ∃ length ≤ steps, HasChain types current length ∧ HasChain others current length := by
  induction steps generalizing current with
  | zero => cases hmeets
  | succ steps ih =>
      unfold meets at hmeets
      split at hmeets
      next => cases hmeets
      next parent hparent =>
        split at hmeets
        next => cases hmeets
        next hne =>
          have hother := hkept current parent hne hparent
          split at hmeets
          next hroot =>
            subst hroot
            exact ⟨1, by omega, .child hparent hasChain_noType, .child hother hasChain_noType⟩
          next =>
            obtain ⟨length, hle, hold, hnew⟩ := ih hmeets
            exact ⟨length + 1, by omega, .child hparent hold, .child hother hnew⟩

/-- The chain of a parent that a type may move under has at most as many types as the type is meant
to have ancestors. -/
theorem exists_hasChain_of_hasCycle {subject parent : Int}
    (hkept : ∀ id parent, id ≠ subject → parentOf? types id = some parent →
      parentOf? others id = some parent)
    (hcycle : hasCycle types subject parent = .ok false) :
    ∃ length ≤ maxDepth, HasChain types parent length ∧ HasChain others parent length := by
  unfold hasCycle at hcycle
  split at hcycle
  next hroot =>
    subst hroot
    exact ⟨0, by omega, hasChain_noType, hasChain_noType⟩
  next => exact exists_hasChain_of_meets hkept hcycle

/-! ## Moving a type -/

section Move

variable {subject target : Int} {length : Nat}

/-- A chain is as long as before when a type moves, or it leads through that type and goes on with
the chain of its new parent. -/
theorem Rooted.hasChain_move (h : Rooted types id)
    (hkept : ∀ id parent, id ≠ subject → parentOf? types id = some parent →
      parentOf? others id = some parent)
    (hmoved : parentOf? others subject = some target) (htarget : HasChain others target length) :
    (∃ same, HasChain types id same ∧ HasChain others id same) ∨
      ∃ below, ascend types below id = some subject ∧
        HasChain others id (below + length + 1) := by
  induction h with
  | root => exact .inl ⟨0, hasChain_noType, hasChain_noType⟩
  | @child id parent hparent _ ih =>
      by_cases hid : id = subject
      · subst hid
        refine .inr ⟨0, rfl, ?_⟩
        rw [Nat.zero_add]
        exact .child hmoved htarget
      · have hother := hkept id parent hid hparent
        rcases ih with ⟨same, hold, hnew⟩ | ⟨below, hbelow, hnew⟩
        · exact .inl ⟨same + 1, .child hparent hold, .child hother hnew⟩
        · refine .inr ⟨below + 1, ?_, ?_⟩
          · rw [ascend, hparent, Option.bind_some, hbelow]
          · rw [Nat.add_right_comm below 1 length]
            exact .child hother hnew

/-- Every type below the moved one gets the chain of the new parent on top of what leads to it. -/
theorem hasChain_of_below (hreturn : ∀ steps, ascend types (steps + 1) subject ≠ some subject)
    (hkept : ∀ id parent, id ≠ subject → parentOf? types id = some parent →
      parentOf? others id = some parent)
    (hmoved : parentOf? others subject = some target) (htarget : HasChain others target length)
    {below : Nat} (hbelow : ascend types below id = some subject) :
    HasChain others id (below + length + 1) := by
  induction below generalizing id with
  | zero =>
      obtain rfl : id = subject := Option.some.inj hbelow
      rw [Nat.zero_add]
      exact .child hmoved htarget
  | succ below ih =>
      obtain ⟨parent, hparent, hrest⟩ := Option.bind_eq_some_iff.mp hbelow
      have hid : id ≠ subject := by
        rintro rfl
        exact hreturn below hbelow
      rw [Nat.add_right_comm below 1 length]
      exact .child (hkept id parent hid hparent) (ih hrest)

end Move

end Allowance.SpendType
