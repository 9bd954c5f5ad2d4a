import Allowance.Proofs.SpendType.Depth

/-!
# Ancestors in a forest

The walk over the ancestors of a spend type is bounded. If the whole chain of the type is within the
bound, then the walk lists exactly the types that the type is below, each once, and its last one is
the only one without a parent.
-/

namespace Allowance.SpendType

/-- A spend type is another one or a descendant of it. -/
def IsBelow (types : List SpendType) (id ancestor : Int) : Prop :=
  ∃ steps, ascend types steps id = some ancestor

/-- No spend type is the parent. -/
def IsParentless (types : List SpendType) (id : Int) : Prop :=
  (parentOf? types id).getD noType = noType

instance (types : List SpendType) (id : Int) : Decidable (IsParentless types id) := by
  unfold IsParentless
  infer_instance

variable {types : List SpendType} {id ancestor : Int} {length steps : Nat}

theorem find?_isSome_iff : (find? types id).isSome = true ↔ ∃ type ∈ types, type.id = id := by
  simp [find?]

theorem id_of_find? {type : SpendType} (h : find? types id = some type) : type.id = id := by
  simpa using List.find?_some h

theorem parentOf?_isSome_iff :
    (parentOf? types id).isSome = true ↔ ∃ type ∈ types, type.id = id := by
  rw [parentOf?, Option.isSome_map, find?_isSome_iff]

theorem parentOf?_eq_none (h : ∀ type ∈ types, type.id ≠ id) : parentOf? types id = none := by
  rw [← Option.not_isSome_iff_eq_none, parentOf?_isSome_iff]
  rintro ⟨type, htype, hid⟩
  exact h type htype hid

theorem isBelow_iff : IsBelow types id ancestor ↔ id = ancestor ∨
    ∃ parent, parentOf? types id = some parent ∧ IsBelow types parent ancestor := by
  constructor
  · rintro ⟨steps, hsteps⟩
    cases steps with
    | zero => exact .inl (Option.some.inj hsteps)
    | succ steps =>
        obtain ⟨parent, hparent, hrest⟩ := Option.bind_eq_some_iff.mp hsteps
        exact .inr ⟨parent, hparent, steps, hrest⟩
  · rintro (rfl | ⟨parent, hparent, steps, hsteps⟩)
    · exact ⟨0, rfl⟩
    · exact ⟨steps + 1, by rw [ascend, hparent, Option.bind_some, hsteps]⟩

theorem isBelow_of_parentOf?_eq_none (h : parentOf? types id = none) :
    IsBelow types id ancestor ↔ id = ancestor := by
  rw [isBelow_iff, h]
  simp

/-- No type on its chain comes back. -/
theorem HasChain.ascend_ne (hroot : parentOf? types noType = none)
    (h : HasChain types id length) (steps : Nat) : ascend types (steps + 1) id ≠ some id := by
  intro hreturn
  have hagain : HasChain types id (steps + 1 + length) := by
    rw [HasChain, ascend_add, hreturn, Option.bind_some]
    exact h
  have := h.unique hroot hagain
  omega

theorem HasChain.rooted (h : HasChain types id length) : Rooted types id := by
  induction length generalizing id with
  | zero =>
      obtain rfl : id = noType := Option.some.inj h
      exact .root
  | succ length ih =>
      obtain ⟨parent, hparent, hrest⟩ := Option.bind_eq_some_iff.mp h
      exact .child hparent (ih hrest)

/-- The parents of a forest are known. -/
theorem exists_type_of_parent (hdepth : IsWithinDepth types) {parent : Int}
    (hparent : parentOf? types id = some parent) (hne : parent ≠ noType) :
    ∃ type ∈ types, type.id = parent := by
  have hknown : (parentOf? types id).isSome = true := by
    rw [hparent]
    rfl
  obtain ⟨type, htype, rfl⟩ := parentOf?_isSome_iff.mp hknown
  obtain ⟨ancestors, -, hchain⟩ := hdepth type htype
  obtain ⟨other, hother, hrest⟩ := Option.bind_eq_some_iff.mp hchain
  obtain rfl := Option.some.inj (hparent.symm.trans hother)
  cases ancestors with
  | zero => exact absurd (Option.some.inj hrest) hne
  | succ ancestors =>
      obtain ⟨grandparent, hgrandparent, -⟩ := Option.bind_eq_some_iff.mp hrest
      rw [← parentOf?_isSome_iff, hgrandparent]
      rfl

/-! ## Walks over whole chains -/

/-- A walk with a chain that is left to go goes on to the parent. -/
theorem HasChain.walk_succ (hroot : parentOf? types noType = none)
    (h : HasChain types id (length + 1)) (steps : Nat) :
    ∃ parent, parentOf? types id = some parent ∧ id ≠ noType ∧ HasChain types parent length ∧
      walk types (steps + 1) id = id :: walk types steps parent := by
  obtain ⟨parent, hparent, hrest⟩ := Option.bind_eq_some_iff.mp h
  have hid : id ≠ noType := by
    rintro rfl
    rw [hroot] at hparent
    cases hparent
  exact ⟨parent, hparent, hid, hrest, by rw [walk, if_neg hid, hparent]⟩

theorem walk_of_hasChain_zero (h : HasChain types id 0) : walk types steps id = [] := by
  obtain rfl : id = noType := Option.some.inj h
  cases steps <;> rfl

theorem HasChain.mem_walk (hroot : parentOf? types noType = none) (h : HasChain types id length)
    (hlength : length ≤ steps) :
    ancestor ∈ walk types steps id ↔ ancestor ≠ noType ∧ IsBelow types id ancestor := by
  induction length generalizing id steps with
  | zero =>
      obtain rfl : id = noType := Option.some.inj h
      rw [walk_of_hasChain_zero h, isBelow_of_parentOf?_eq_none hroot]
      simp [eq_comm]
  | succ length ih =>
      obtain ⟨steps, rfl⟩ := Nat.exists_eq_add_of_le' (Nat.le_trans (Nat.le_add_left 1 _) hlength)
      obtain ⟨parent, hparent, hid, hrest, hwalk⟩ := h.walk_succ hroot steps
      rw [hwalk, List.mem_cons, ih hrest (Nat.le_of_succ_le_succ hlength), @isBelow_iff types id]
      constructor
      · rintro (rfl | ⟨hne, hbelow⟩)
        · exact ⟨hid, .inl rfl⟩
        · exact ⟨hne, .inr ⟨parent, hparent, hbelow⟩⟩
      · rintro ⟨hne, rfl | ⟨other, hother, hbelow⟩⟩
        · exact .inl rfl
        · obtain rfl := Option.some.inj (hparent.symm.trans hother)
          exact .inr ⟨hne, hbelow⟩

theorem HasChain.nodup_walk (hroot : parentOf? types noType = none)
    (h : HasChain types id length) (hlength : length ≤ steps) : (walk types steps id).Nodup := by
  induction length generalizing id steps with
  | zero =>
      rw [walk_of_hasChain_zero h]
      exact List.nodup_nil
  | succ length ih =>
      obtain ⟨steps, rfl⟩ := Nat.exists_eq_add_of_le' (Nat.le_trans (Nat.le_add_left 1 _) hlength)
      obtain ⟨parent, hparent, -, hrest, hwalk⟩ := h.walk_succ hroot steps
      have hshort := Nat.le_of_succ_le_succ hlength
      rw [hwalk, List.nodup_cons]
      refine ⟨fun hmem => ?_, ih hrest hshort⟩
      obtain ⟨-, more, hmore⟩ := (hrest.mem_walk hroot hshort).mp hmem
      apply h.ascend_ne hroot more
      rw [ascend, hparent, Option.bind_some, hmore]

/-- The chain of a type has one top. -/
theorem HasChain.countP_isParentless_walk (hroot : parentOf? types noType = none)
    (h : HasChain types id (length + 1)) (hlength : length < steps) :
    (walk types steps id).countP (IsParentless types ·) = 1 := by
  induction length generalizing id steps with
  | zero =>
      obtain ⟨steps, rfl⟩ := Nat.exists_eq_add_of_le' hlength
      obtain ⟨parent, hparent, -, hrest, hwalk⟩ := h.walk_succ hroot steps
      have htop : IsParentless types id := by
        rw [IsParentless, hparent]
        exact Option.some.inj hrest
      rw [hwalk, walk_of_hasChain_zero hrest]
      simp [htop]
  | succ length ih =>
      obtain ⟨steps, rfl⟩ := Nat.exists_eq_add_of_le' (Nat.zero_lt_of_lt hlength)
      obtain ⟨parent, hparent, -, hrest, hwalk⟩ := h.walk_succ hroot steps
      have htop : ¬ IsParentless types id := by
        rw [IsParentless, hparent, Option.getD_some]
        rintro rfl
        have := hrest.unique hroot hasChain_noType
        omega
      rw [hwalk, List.countP_cons_of_neg (by simpa using htop),
        ih hrest (Nat.lt_of_succ_lt_succ hlength)]

/-- Only known types are on a walk. -/
theorem exists_type_of_mem_walk (h : ancestor ∈ walk types steps id) :
    ∃ type ∈ types, type.id = ancestor := by
  induction steps generalizing id with
  | zero => cases h
  | succ steps ih =>
      unfold walk at h
      split at h
      next => cases h
      next =>
        split at h
        next => cases h
        next parent hparent =>
          rcases List.mem_cons.mp h with rfl | hrest
          · rw [← parentOf?_isSome_iff, hparent]
            rfl
          · exact ih hrest

end Allowance.SpendType
