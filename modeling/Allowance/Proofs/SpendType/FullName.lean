import Mathlib.Data.List.Basic
import Allowance.Proofs.SpendType.Ancestors

/-!
# Full names and ancestors

A full name is built from the type up, the list of ancestors from the type's parent on. Both stop
at the same type, also in a malformed hierarchy: the full name shows the ancestors from the farthest
one down, except that the last one that fits into the bound is cut off.
-/

namespace Allowance.SpendType

/-- The name of a type after the names of those above it, which are given nearest first. If these
are as many as the bound, then an ellipsis stands for the farthest one and all above it. -/
def pathName (bound : Nat) (above : List SpendType) (type : SpendType) : String :=
  let names :=
    if above.length < bound then above.reverse.map (·.name)
    else "..." :: (above.take (bound - 1)).reverse.map (·.name)
  " / ".intercalate (names ++ [type.name])

/-- The spend types that numbers have. -/
def typesOf (types : List SpendType) (ids : List Int) : List SpendType :=
  ids.filterMap (find? types)

variable {types : List SpendType} {type : SpendType} {id : Int} {steps : Nat}

theorem pathName_nil (bound : Nat) (type : SpendType) :
    pathName (bound + 1) [] type = type.name := by
  simp [pathName]

theorem pathName_cons (bound : Nat) (parent : SpendType) (above : List SpendType)
    (type : SpendType) : pathName (bound + 2) (parent :: above) type =
      pathName (bound + 1) above parent ++ " / " ++ type.name := by
  have hlast (names : List String) : " / ".intercalate ((names ++ [parent.name]) ++ [type.name]) =
      " / ".intercalate (names ++ [parent.name]) ++ " / " ++ type.name := by
    rw [String.intercalate_append_of_ne_nil (by simp) (by simp), String.intercalate_singleton]
  unfold pathName
  rw [← hlast]
  by_cases hfits : above.length < bound + 1
  · simp [hfits]
  · simp [hfits]

/-! ## Walks -/

theorem length_walk_le (types : List SpendType) (steps : Nat) (id : Int) :
    (walk types steps id).length ≤ steps := by
  induction steps generalizing id with
  | zero => exact Nat.le_refl 0
  | succ steps ih =>
      rw [walk]
      split
      · exact Nat.zero_le _
      · split
        · exact Nat.zero_le _
        · exact Nat.succ_le_succ (ih _)

theorem typesOf_cons {ids : List Int} (h : find? types id = some type) :
    typesOf types (id :: ids) = type :: typesOf types ids :=
  List.filterMap_cons_some h

/-- No number on a walk is unknown. -/
theorem map_id_typesOf_walk (types : List SpendType) (steps : Nat) (id : Int) :
    (typesOf types (walk types steps id)).map (·.id) = walk types steps id := by
  have hknown : ∀ ancestor ∈ walk types steps id,
      (find? types ancestor).map (·.id) = some ancestor := by
    intro ancestor hancestor
    have hsome := find?_isSome_iff.mpr (exists_type_of_mem_walk hancestor)
    obtain ⟨type, htype⟩ := Option.isSome_iff_exists.mp hsome
    rw [htype, Option.map_some, id_of_find? htype]
  rw [typesOf, List.map_filterMap, List.filterMap_congr hknown, List.filterMap_some]

theorem walk_of_find?_eq_none (h : find? types id = none) : walk types (steps + 1) id = [] := by
  rw [walk, parentOf?, h]
  split <;> rfl

theorem walk_of_find? (hroot : find? types noType = none) (h : find? types id = some type) :
    walk types (steps + 1) id = id :: walk types steps type.parent := by
  have hid : id ≠ noType := by
    rintro rfl
    rw [hroot] at h
    cases h
  rw [walk, if_neg hid, parentOf?, h, Option.map_some]

/-! ## Names -/

theorem nameWithin_of_find?_eq_none (h : find? types type.parent = none) :
    nameWithin types (steps + 1) type = type.name := by
  rw [nameWithin, h]

theorem nameWithin_of_find? {parent : SpendType} (h : find? types type.parent = some parent) :
    nameWithin types (steps + 1) type = nameWithin types steps parent ++ " / " ++ type.name := by
  rw [nameWithin, h]

/-- The recursion over parents names the types on the walk from the parent on. -/
theorem nameWithin_eq_pathName (hroot : find? types noType = none) (steps : Nat)
    (type : SpendType) : nameWithin types (steps + 1) type =
      pathName (steps + 1) (typesOf types (walk types (steps + 1) type.parent)) type := by
  induction steps generalizing type with
  | zero =>
      cases hparent : find? types type.parent with
      | none =>
          rw [nameWithin_of_find?_eq_none hparent, walk_of_find?_eq_none hparent]
          exact (pathName_nil 0 type).symm
      | some parent =>
          rw [nameWithin_of_find? hparent, walk_of_find? hroot hparent]
          simp [typesOf_cons hparent, nameWithin, pathName]
  | succ steps ih =>
      cases hparent : find? types type.parent with
      | none =>
          rw [nameWithin_of_find?_eq_none hparent, walk_of_find?_eq_none hparent]
          exact (pathName_nil (steps + 1) type).symm
      | some parent =>
          rw [nameWithin_of_find? hparent, walk_of_find? hroot hparent, ih, typesOf_cons hparent,
            pathName_cons]

theorem mem_numbers : id ∈ numbers types ↔ ∃ type ∈ types, type.id = id := by
  simp [numbers]

theorem mem_fullNames {name : String} :
    (id, name) ∈ fullNames types ↔ fullName? types id = some name := by
  have hnumber (h : fullName? types id = some name) : id ∈ numbers types := by
    rw [fullName?, Option.map_eq_some_iff] at h
    obtain ⟨type, hfind, -⟩ := h
    rw [mem_numbers, ← find?_isSome_iff, hfind]
    rfl
  simp only [fullNames, List.mem_filterMap, Option.map_eq_some_iff, Prod.mk.injEq]
  constructor
  · rintro ⟨other, -, found, hfound, rfl, rfl⟩
    exact hfound
  · exact fun h => ⟨id, hnumber h, name, h, rfl, rfl⟩

/-- Every type has one full name, that of the last type with its number: the names of its ancestors
from the farthest one down and then its own. If there are as many ancestors as a type is meant to
have at most, then an ellipsis stands for the farthest one. -/
theorem fullNames_eq_pathName (hzero : ∀ type ∈ types, type.id ≠ noType) (htype : type ∈ types) :
    ∃ last, find? types type.id = some last ∧
      (typesOf types (ancestors types type.id)).map (·.id) = ancestors types type.id ∧
      (ancestors types type.id).length ≤ maxDepth ∧
      ∀ name, (type.id, name) ∈ fullNames types ↔
        name = pathName maxDepth (typesOf types (ancestors types type.id)) last := by
  have hroot : find? types noType = none := by
    simpa [parentOf?] using parentOf?_eq_none hzero
  obtain ⟨last, hlast⟩ := Option.isSome_iff_exists.mp (find?_isSome_iff.mpr ⟨type, htype, rfl⟩)
  have hancestors : ancestors types type.id = walk types maxDepth last.parent := by
    rw [ancestors, parentOf?, hlast, Option.map_some, Option.getD_some]
  rw [hancestors]
  refine ⟨last, hlast, map_id_typesOf_walk .., length_walk_le .., fun name => ?_⟩
  rw [mem_fullNames, fullName?, hlast, Option.map_some, Option.some.injEq, eq_comm, fullName,
    maxDepth, nameWithin_eq_pathName hroot]

/-- A type that is its own parent has itself as all its ancestors. Of two types with one number the
last one counts, though its parent is unknown. -/
theorem fullNames_malformedTypes :
    let types : List SpendType :=
      [⟨1, "Gifts", 1⟩, ⟨2, "Tea", 1⟩, ⟨2, "Food", 9⟩, ⟨3, "Lunch", 2⟩]
    (1, " / ".intercalate ("..." :: List.replicate 15 "Gifts")) ∈ fullNames types ∧
      (3, "Food / Lunch") ∈ fullNames types := by
  intro types
  have hzero : ∀ type ∈ types, type.id ≠ noType := by decide
  have hgifts : (⟨1, "Gifts", 1⟩ : SpendType) ∈ types := by decide
  have hlunch : (⟨3, "Lunch", 2⟩ : SpendType) ∈ types := by decide
  constructor
  · obtain ⟨last, hlast, -, -, hname⟩ := fullNames_eq_pathName hzero hgifts
    obtain rfl := Option.some.inj (hlast.symm.trans rfl)
    exact (hname _).mpr rfl
  · obtain ⟨last, hlast, -, -, hname⟩ := fullNames_eq_pathName hzero hlunch
    obtain rfl := Option.some.inj (hlast.symm.trans rfl)
    exact (hname _).mpr rfl

end Allowance.SpendType
