import Mathlib.Data.List.Perm.Subperm
import Allowance.Proofs.SpendType.Ancestors
import Allowance.Proofs.Statistics.Sums

/-!
# Places in the tree of a report

A type of a report stands below its parent if the parent has a sum as well, and at the root
otherwise. On a malformed hierarchy some types stand nowhere. Those that do have one depth, which is
less than the number of sums, so a report that starts at the root comes to an end.
-/

namespace Allowance.Statistics

open SpendType

variable {types : List SpendType} {sums : Sums} {id : Int} {entry : Int × Money} {depth : Nat}

theorem reportedParent_of_ne (h : reportedParent types sums id ≠ noType) :
    parentOf? types id = some (reportedParent types sums id) ∧
      reportedParent types sums id ∈ Sums.ids sums := by
  unfold reportedParent at h ⊢
  dsimp only at h ⊢
  split at h
  next hany =>
    rw [if_pos hany]
    refine ⟨?_, Sums.any_eq_true_iff.mp hany⟩
    cases hparent : parentOf? types id with
    | none =>
        rw [hparent] at h
        exact absurd rfl h
    | some parent => rfl
  next => exact absurd rfl h

theorem reportedParent_of_mem {parent : Int} (hparent : parentOf? types id = some parent)
    (hmem : parent ∈ Sums.ids sums) : reportedParent types sums id = parent := by
  simp only [reportedParent, hparent, Option.getD_some]
  rw [if_pos (Sums.any_eq_true_iff.mpr hmem)]

/-! ## Places -/

/-- A number with a sum is reported at a depth. -/
inductive StandsAt (types : List SpendType) (sums : Sums) : Nat → Int → Prop where
  | untyped (hmem : noType ∈ Sums.ids sums) : StandsAt types sums 0 noType
  | root {id : Int} (hmem : id ∈ Sums.ids sums) (hid : id ≠ noType)
      (hparent : reportedParent types sums id = noType) : StandsAt types sums 0 id
  | child {id : Int} {depth : Nat} (hmem : id ∈ Sums.ids sums) (hid : id ≠ noType)
      (hparent : reportedParent types sums id ≠ noType)
      (h : StandsAt types sums depth (reportedParent types sums id)) :
      StandsAt types sums (depth + 1) id

namespace StandsAt

theorem mem (h : StandsAt types sums depth id) : id ∈ Sums.ids sums := by
  cases h <;> assumption

/-- What stands below the root stands one level below its parent. -/
theorem parent (h : StandsAt types sums (depth + 1) id) :
    parentOf? types id = some (reportedParent types sums id) ∧
      StandsAt types sums depth (reportedParent types sums id) := by
  cases h with
  | child _ _ hparent h => exact ⟨(reportedParent_of_ne hparent).1, h⟩

theorem unique {other : Nat} (h : StandsAt types sums depth id)
    (hother : StandsAt types sums other id) : depth = other := by
  induction h generalizing other with
  | untyped =>
      cases hother with
      | untyped => rfl
      | root _ hid => exact absurd rfl hid
      | child _ hid => exact absurd rfl hid
  | root _ hid hparent =>
      cases hother with
      | untyped => rfl
      | root => rfl
      | child _ _ hne => exact absurd hparent hne
  | child _ hid hne _ ih =>
      cases hother with
      | untyped => exact absurd rfl hid
      | root _ _ hparent => exact absurd hparent hne
      | child _ _ _ hbelow => rw [ih hbelow]

/-- Whatever stands at some depth has a whole chain of sums above it, of which no two have the same
depth. -/
theorem exists_chain (h : StandsAt types sums depth id) :
    ∃ chain : List Int, chain.length = depth + 1 ∧ chain.Nodup ∧ chain ⊆ Sums.ids sums ∧
      ∀ above ∈ chain, ∃ level ≤ depth, StandsAt types sums level above := by
  have hsingle {id : Int} (h : StandsAt types sums 0 id) :
      ∃ chain : List Int, chain.length = 0 + 1 ∧ chain.Nodup ∧ chain ⊆ Sums.ids sums ∧
        ∀ above ∈ chain, ∃ level ≤ 0, StandsAt types sums level above := by
    refine ⟨[id], rfl, List.nodup_singleton id, List.cons_subset.mpr ⟨h.mem, List.nil_subset _⟩, ?_⟩
    intro above habove
    obtain rfl := List.mem_singleton.mp habove
    exact ⟨0, Nat.le_refl 0, h⟩
  induction h with
  | untyped hmem => exact hsingle (.untyped hmem)
  | root hmem hid hparent => exact hsingle (.root hmem hid hparent)
  | @child id depth hmem hid hparent h ih =>
      obtain ⟨chain, hlength, hnodup, hsubset, hstands⟩ := ih
      have hhere : StandsAt types sums (depth + 1) id := .child hmem hid hparent h
      refine ⟨id :: chain, by rw [List.length_cons, hlength], ?_, ?_, ?_⟩
      · refine List.nodup_cons.mpr ⟨fun hagain => ?_, hnodup⟩
        obtain ⟨level, hlevel, hthere⟩ := hstands id hagain
        have := hhere.unique hthere
        omega
      · exact List.cons_subset.mpr ⟨hmem, hsubset⟩
      · intro above habove
        rcases List.mem_cons.mp habove with rfl | habove
        · exact ⟨depth + 1, Nat.le_refl _, hhere⟩
        · obtain ⟨level, hlevel, hthere⟩ := hstands above habove
          exact ⟨level, Nat.le_succ_of_le hlevel, hthere⟩

theorem depth_lt (h : StandsAt types sums depth id) : depth < sums.length := by
  obtain ⟨chain, hlength, hnodup, hsubset, -⟩ := h.exists_chain
  have hle := (List.subperm_of_subset hnodup hsubset).length_le
  rw [hlength, Sums.ids, List.length_map] at hle
  exact hle

end StandsAt

/-- The number that is some levels above another one in a report. -/
def reportedAbove (types : List SpendType) (sums : Sums) : Nat → Int → Int
  | 0, id => id
  | levels + 1, id => reportedParent types sums (reportedAbove types sums levels id)

theorem reportedAbove_succ (levels : Nat) (id : Int) : reportedAbove types sums (levels + 1) id =
    reportedAbove types sums levels (reportedParent types sums id) := by
  induction levels with
  | zero => rfl
  | succ levels ih => rw [reportedAbove, ih, reportedAbove]

/-- A chain of known parents ends at the root, so each of its sums is reported. -/
theorem exists_standsAt_of_rooted (h : Rooted types id) (hmem : id ∈ Sums.ids sums) :
    ∃ depth, StandsAt types sums depth id := by
  induction h with
  | root => exact ⟨0, .untyped hmem⟩
  | @child id parent hparent h ih =>
      by_cases hid : id = noType
      · subst hid
        exact ⟨0, .untyped hmem⟩
      by_cases hreported : reportedParent types sums id = noType
      · exact ⟨0, .root hmem hid hreported⟩
      · obtain ⟨hknown, habove⟩ := reportedParent_of_ne hreported
        obtain rfl := Option.some.inj (hparent.symm.trans hknown)
        obtain ⟨depth, hdepth⟩ := ih habove
        exact ⟨depth + 1, .child hmem hid hreported hdepth⟩

/-- A number without a parent stands at the root. -/
theorem standsAt_of_isParentless (h : IsParentless types id) (hmem : id ∈ Sums.ids sums) :
    StandsAt types sums 0 id := by
  by_cases hid : id = noType
  · subst hid
    exact .untyped hmem
  · refine .root hmem hid ?_
    by_contra hne
    rw [IsParentless, (reportedParent_of_ne hne).1] at h
    exact hne h

/-! ## Levels -/

/-- Sums that are reported at one depth. -/
structure IsLevel (types : List SpendType) (sums : Sums) (depth : Nat) (siblings : Sums) :
    Prop where
  mem : ∀ sibling ∈ siblings, sibling ∈ sums
  stands : ∀ sibling ∈ siblings, StandsAt types sums depth sibling.1
  nodup : (Sums.ids siblings).Nodup

/-- What is reported at the root: types without a reported parent, and spends without a type. -/
def reportRoots (types : List SpendType) (sums : Sums) : Sums :=
  reportedChildren types sums noType ++ sums.filter (·.1 == noType)

theorem mem_reportedChildren {parent : Int} : entry ∈ reportedChildren types sums parent ↔
    entry ∈ sums ∧ entry.1 ≠ noType ∧ reportedParent types sums entry.1 = parent := by
  simp [reportedChildren]

theorem mem_reportRoots :
    entry ∈ reportRoots types sums ↔ entry ∈ sums ∧ StandsAt types sums 0 entry.1 := by
  obtain ⟨id, amount⟩ := entry
  simp only [reportRoots, List.mem_append, mem_reportedChildren, List.mem_filter, beq_iff_eq]
  constructor
  · rintro (⟨hmem, hid, hparent⟩ | ⟨hmem, rfl⟩)
    · exact ⟨hmem, .root (Sums.mem_ids_of_mem hmem) hid hparent⟩
    · exact ⟨hmem, .untyped (Sums.mem_ids_of_mem hmem)⟩
  · rintro ⟨hmem, hstands⟩
    cases hstands with
    | untyped => exact .inr ⟨hmem, rfl⟩
    | root _ hid hparent => exact .inl ⟨hmem, hid, hparent⟩

/-- The types below one that stands at a depth stand one level deeper. -/
theorem StandsAt.of_reportedChildren (h : StandsAt types sums depth id) (hid : id ≠ noType)
    (hentry : entry ∈ reportedChildren types sums id) :
    StandsAt types sums (depth + 1) entry.1 := by
  obtain ⟨hmem, hentryId, hparent⟩ := mem_reportedChildren.mp hentry
  rw [← hparent] at hid h
  exact .child (Sums.mem_ids_of_mem hmem) hentryId hid h

variable {siblings : Sums}

theorem isLevel_reportRoots (hnodup : (Sums.ids sums).Nodup) :
    IsLevel types sums 0 (reportRoots types sums) where
  mem _ h := (mem_reportRoots.mp h).1
  stands _ h := (mem_reportRoots.mp h).2
  nodup := by
    rw [Sums.ids, reportRoots, List.map_append]
    refine List.nodup_append.mpr ⟨(List.filter_sublist.map _).nodup hnodup,
      (List.filter_sublist.map _).nodup hnodup, ?_⟩
    intro typed htyped untyped huntyped
    obtain ⟨entry, hentry, rfl⟩ := List.mem_map.mp htyped
    obtain ⟨other, hother, rfl⟩ := List.mem_map.mp huntyped
    rw [beq_iff_eq.mp (List.mem_filter.mp hother).2]
    exact (mem_reportedChildren.mp hentry).2.1

namespace IsLevel

theorem perm {sorted : Sums} (h : IsLevel types sums depth siblings)
    (hperm : sorted.Perm siblings) : IsLevel types sums depth sorted where
  mem _ hsibling := h.mem _ (hperm.mem_iff.mp hsibling)
  stands _ hsibling := h.stands _ (hperm.mem_iff.mp hsibling)
  nodup := (hperm.map _).nodup_iff.mpr h.nodup

theorem tail {later : Sums} (h : IsLevel types sums depth (entry :: later)) :
    IsLevel types sums depth later where
  mem _ hsibling := h.mem _ (List.mem_cons_of_mem _ hsibling)
  stands _ hsibling := h.stands _ (List.mem_cons_of_mem _ hsibling)
  nodup := (List.nodup_cons.mp h.nodup).2

theorem children (hnodup : (Sums.ids sums).Nodup) (hid : id ≠ noType)
    (h : StandsAt types sums depth id) :
    IsLevel types sums (depth + 1) (reportedChildren types sums id) where
  mem _ hchild := (mem_reportedChildren.mp hchild).1
  stands _ hchild := h.of_reportedChildren hid hchild
  nodup := (List.filter_sublist.map _).nodup hnodup

end IsLevel

end Allowance.Statistics
