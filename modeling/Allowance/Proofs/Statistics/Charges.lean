import Allowance.Proofs.SpendType.Ancestors
import Allowance.Proofs.Statistics.Sums

/-!
# What a spend counts for

In a forest whose chains are within the bound of the walks, a spend counts once for its type and for
every type above, or for no type if its own is not known. So the sum of a type is what is spent with
it and its descendants, and exactly one of the types that a spend counts for has no parent.
-/

namespace Allowance.Statistics

open Number SpendType

/-- A spend has no type, or one that is not known. -/
def IsUntyped (types : List SpendType) (row : SpendRecord) : Prop :=
  row.typeId = noType ∨ ∀ type ∈ types, type.id ≠ row.typeId

instance (types : List SpendType) (row : SpendRecord) : Decidable (IsUntyped types row) := by
  unfold IsUntyped
  infer_instance

/-- A spend counts for its type and the types above, and for no type if its own is not known. -/
def CountsFor (types : List SpendType) (id : Int) (row : SpendRecord) : Prop :=
  if id = noType then IsUntyped types row else IsBelow types row.typeId id

open Classical in
/-- What all spends that count for a type cost together. -/
noncomputable def subtreeSum (types : List SpendType) (precision : Nat) (rows : List SpendRecord)
    (id : Int) : Money :=
  ((rows.filter (CountsFor types id)).map (·.cost)).foldl (· + ·) (.zero precision)

/-- A number that a report may be about: no type, or one that is known. -/
def IsReportable (types : List SpendType) (id : Int) : Prop :=
  id = noType ∨ ∃ type ∈ types, type.id = id

variable {types : List SpendType} {rows : List SpendRecord} {row : SpendRecord} {id : Int}
  {precision : Nat}

/-- A sum is as precise as the report and as each cost that it is made of. -/
theorem precision_le_subtreeSum (types : List SpendType) (precision : Nat)
    (rows : List SpendRecord) (id : Int) :
    precision ≤ (subtreeSum types precision rows id).precision ∧
      ∀ row ∈ rows, CountsFor types id row →
        row.cost.precision ≤ (subtreeSum types precision rows id).precision := by
  classical
  obtain ⟨hreport, hcosts⟩ := (Money.precision_foldl_add_le_iff (.zero precision) _).mp
    (Nat.le_refl (subtreeSum types precision rows id).precision)
  refine ⟨hreport, fun row hrow hcounts => hcosts row.cost ?_⟩
  exact List.mem_map_of_mem (List.mem_filter.mpr ⟨hrow, decide_eq_true hcounts⟩)

/-! ## What a spend is charged to -/

theorem chargedTypes_of_isUntyped (h : IsUntyped types row) :
    chargedTypes types row = [noType] := by
  rw [chargedTypes, if_pos]
  rcases h with hnone | hunknown
  · simp [hnone]
  · have : (find? types row.typeId).isNone = true := by
      rw [← Option.not_isSome, Bool.not_eq_true', ← Bool.not_eq_true, find?_isSome_iff]
      rintro ⟨type, htype, hid⟩
      exact hunknown type htype hid
    simp [this]

/-- Nothing unknown is charged with a cost. -/
theorem isReportable_of_mem_chargedTypes (h : id ∈ chargedTypes types row) :
    IsReportable types id := by
  unfold chargedTypes at h
  split at h
  next => exact .inl (List.mem_singleton.mp h)
  next hknown =>
    rcases List.mem_cons.mp h with rfl | hancestor
    · rw [Bool.or_eq_true, not_or, Bool.not_eq_true, Option.isNone_eq_false_iff,
        find?_isSome_iff] at hknown
      exact .inr hknown.1
    · exact .inr (exists_type_of_mem_walk hancestor)

/-- What a report is about has been charged with a cost. -/
theorem isReportable_of_mem (h : id ∈ Sums.ids (typeSums types precision rows)) :
    IsReportable types id := by
  rw [mem_ids_typeSums] at h
  by_contra hnot
  have hnone : (charges types rows).filter (·.1 == id) = [] := by
    rw [List.filter_eq_nil_iff]
    intro charge hcharge hsame
    obtain ⟨row, -, hrow⟩ := List.mem_flatMap.mp hcharge
    obtain ⟨charged, hcharged, rfl⟩ := List.mem_map.mp hrow
    obtain rfl : charged = id := beq_iff_eq.mp hsame
    exact hnot (isReportable_of_mem_chargedTypes hcharged)
  rw [typeSum, hnone] at h
  exact h (Money.value_zero precision)

section Forest

variable (hzero : ∀ type ∈ types, type.id ≠ noType) (hdepth : IsWithinDepth types)
include hzero hdepth

/-- A spend of a known type is charged to the walk from its type to the root. -/
theorem chargedTypes_of_known (h : ¬ IsUntyped types row) :
    ∃ length ≤ maxDepth, HasChain types row.typeId (length + 1) ∧
      chargedTypes types row = walk types (maxDepth + 1) row.typeId := by
  obtain ⟨hid, hknown⟩ := not_or.mp h
  push Not at hknown
  obtain ⟨type, htype, hsame⟩ := hknown
  obtain ⟨length, hlength, hchain⟩ := hdepth type htype
  rw [hsame] at hchain
  obtain ⟨parent, hparent, -, -, hwalk⟩ := hchain.walk_succ (parentOf?_eq_none hzero) maxDepth
  refine ⟨length, hlength, hchain, ?_⟩
  have hsome : (find? types row.typeId).isNone = false := by
    rw [← Option.not_isSome, find?_isSome_iff.mpr ⟨type, htype, hsame⟩]
    rfl
  rw [chargedTypes, if_neg (by simp [hsome, hid]), hwalk, ancestors, hparent]
  rfl

open Classical in
/-- A spend is charged once to all that it counts for. -/
theorem count_chargedTypes (hid : IsReportable types id) (row : SpendRecord) :
    (chargedTypes types row).count id = if CountsFor types id row then 1 else 0 := by
  have hroot := parentOf?_eq_none hzero
  by_cases huntyped : IsUntyped types row
  · rw [chargedTypes_of_isUntyped huntyped, CountsFor]
    rcases hid with rfl | ⟨type, htype, rfl⟩
    · simp [huntyped]
    · have hnot : ¬ IsBelow types row.typeId type.id := by
        rcases huntyped with hnone | hunknown
        · rw [hnone, isBelow_of_parentOf?_eq_none hroot]
          exact (hzero type htype).symm
        · rw [isBelow_of_parentOf?_eq_none (parentOf?_eq_none hunknown)]
          exact (hunknown type htype).symm
      rw [if_neg (hzero type htype), if_neg hnot, List.count_singleton, if_neg]
      simpa using (hzero type htype).symm
  · obtain ⟨length, hlength, hchain, hcharged⟩ := chargedTypes_of_known hzero hdepth huntyped
    have hbound : length + 1 ≤ maxDepth + 1 := Nat.succ_le_succ hlength
    rw [hcharged, (hchain.nodup_walk hroot hbound).count]
    refine if_congr ?_ rfl rfl
    rw [hchain.mem_walk hroot hbound, CountsFor]
    split
    next hnone => simp [hnone, huntyped]
    next hsome => simp [hsome]

/-- Of all that a spend is charged to, one number is at the top. -/
theorem countP_isParentless_chargedTypes (row : SpendRecord) :
    (chargedTypes types row).countP (IsParentless types ·) = 1 := by
  have hroot := parentOf?_eq_none hzero
  by_cases huntyped : IsUntyped types row
  · have htop : IsParentless types noType := by
      rw [IsParentless, hroot]
      rfl
    rw [chargedTypes_of_isUntyped huntyped]
    simp [htop]
  · obtain ⟨length, hlength, hchain, hcharged⟩ := chargedTypes_of_known hzero hdepth huntyped
    rw [hcharged]
    exact hchain.countP_isParentless_walk hroot (Nat.lt_succ_of_le hlength)

theorem typeSum_eq_subtreeSum (hid : IsReportable types id) :
    typeSum types precision rows id = subtreeSum types precision rows id := by
  classical
  have hcosts : ((charges types rows).filter (·.1 == id)).map (·.2) =
      (rows.filter (CountsFor types id)).map (·.cost) := by
    induction rows with
    | nil => rfl
    | cons row rest ih =>
        have hfirst : (((chargedTypes types row).map (·, row.cost)).filter (·.1 == id)).map (·.2) =
            List.replicate ((chargedTypes types row).count id) row.cost := by
          simp [List.filter_map, Function.comp_def, List.filter_beq]
        rw [charges, List.flatMap_cons, List.filter_append, List.map_append, hfirst, ← charges, ih,
          count_chargedTypes hzero hdepth hid row, List.filter_cons]
        split
        next hcounts => simp [hcounts]
        next hcounts => simp [hcounts]
  rw [typeSum, hcosts, subtreeSum]

/-- A spend counts for exactly one number without a parent. -/
theorem existsUnique_countsFor (row : SpendRecord) :
    ∃! id, IsReportable types id ∧ IsParentless types id ∧ CountsFor types id row := by
  have hcharged {id : Int} (hid : IsReportable types id) :
      CountsFor types id row ↔ id ∈ chargedTypes types row := by
    classical
    rw [← List.count_pos_iff, count_chargedTypes hzero hdepth hid row]
    split <;> simp_all
  have hone := countP_isParentless_chargedTypes hzero hdepth row
  rw [List.countP_eq_length_filter, List.length_eq_one_iff] at hone
  obtain ⟨top, htop⟩ := hone
  have hmem (id : Int) : id ∈ chargedTypes types row ∧ IsParentless types id ↔ id = top := by
    rw [← List.mem_singleton, ← htop, List.mem_filter, decide_eq_true_iff]
  obtain ⟨hcharge, hparentless⟩ := (hmem top).mpr rfl
  have hreportable := isReportable_of_mem_chargedTypes hcharge
  refine ⟨top, ⟨hreportable, hparentless, (hcharged hreportable).mpr hcharge⟩, ?_⟩
  rintro id ⟨hid, hother, hcounts⟩
  exact (hmem id).mp ⟨(hcharged hid).mp hcounts, hother⟩

end Forest

end Allowance.Statistics
