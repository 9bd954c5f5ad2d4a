import Mathlib.Algebra.BigOperators.Group.List.Basic
import Allowance.Proofs.Statistics.Charges
import Allowance.Proofs.Statistics.Preorder

/-!
# Rolling up a forest

A report of a forest lists exactly the types whose subtrees come to something. Its entries at the
root come to all spends together and, besides, to what the types with a parent among them come to:
these have been moved there because their parents come to nothing, and they count for the types
above as well.
-/

namespace Allowance.Statistics

open Number SpendType

variable {types : List SpendType} {rows : List SpendRecord} {id : Int} {precision : Nat}

/-! ## Listed sums -/

section Listed

variable (hdepth : IsWithinDepth types)
include hdepth

/-- In a forest every sum has a place in the report. -/
theorem exists_standsAt (hid : id ∈ Sums.ids (typeSums types precision rows)) :
    ∃ depth, StandsAt types (typeSums types precision rows) depth id := by
  rcases isReportable_of_mem hid with rfl | ⟨type, htype, rfl⟩
  · exact ⟨0, .untyped hid⟩
  · obtain ⟨length, -, hchain⟩ := hdepth type htype
    exact exists_standsAt_of_rooted hchain.rooted hid

variable {entries : List TypeSpent}

/-- The entries of a report are those of its sums. -/
theorem exists_entry_iff (h : spentByType types rows precision = .ok entries) {spent : Money} :
    (∃ entry ∈ entries, entry.typeId = id ∧ entry.spent = spent) ↔
      (id, spent) ∈ typeSums types precision rows := by
  obtain ⟨roots, hroots, hlevel, hreports⟩ := reports_of_spentByType h
  have hplaced := hreports.placed nodup_typeSums hlevel
  constructor
  · rintro ⟨entry, hentry, rfl, rfl⟩
    exact (hplaced entry hentry).mem
  · intro hmem
    obtain ⟨depth, hstands⟩ := exists_standsAt hdepth (Sums.mem_ids_of_mem hmem)
    rw [← Nat.zero_add depth] at hstands
    have hroot := hstands.above depth
    obtain ⟨root, hrootMem, hrootId⟩ := List.mem_map.mp hroot.mem
    rw [← hrootId] at hroot
    have hsorted := (bySpent_spec hroots).1.mem_iff.mpr (mem_reportRoots.mpr ⟨hrootMem, hroot⟩)
    obtain ⟨entry, hentry, hid⟩ := hreports.exists_entry nodup_typeSums hlevel hstands
      (hrootId ▸ Sums.mem_ids_of_mem hsorted)
    refine ⟨entry, hentry, hid, ?_⟩
    have hlisted := (hplaced entry hentry).mem
    rw [hid] at hlisted
    exact (mem_typeSums.mp hlisted).1.trans (mem_typeSums.mp hmem).1.symm

/-- A report is given only if each of its sums has a decimal. -/
theorem exists_decimal_of_mem (h : spentByType types rows precision = .ok entries)
    {entry : Int × Money} (hentry : entry ∈ typeSums types precision rows) :
    ∃ d, entry.2.toDecimal = .ok d := by
  obtain ⟨roots, hroots, -, hreports⟩ := reports_of_spentByType h
  obtain ⟨hperm, hdecimals, -⟩ := bySpent_spec hroots
  obtain ⟨listed, hlisted, -, hspent⟩ := (exists_entry_iff hdepth h).mpr hentry
  rw [← hspent]
  exact hreports.exists_decimal (fun root hroot => hdecimals root (hperm.mem_iff.mp hroot))
    listed hlisted

end Listed

/-- In a forest too, only a sum that is too large keeps a report of less precise amounts from being
given. -/
theorem exists_report_or_overflow (hzero : ∀ type ∈ types, type.id ≠ noType)
    (hdepth : IsWithinDepth types) (hprecision : precision ≤ Money.decimalPlaces)
    (hcosts : ∀ row ∈ rows, row.cost.precision ≤ Money.decimalPlaces) :
    (∃ entries, spentByType types rows precision = .ok entries) ∨
      (spentByType types rows precision = .error (.decimal .overflow) ∧
        ∃ id, IsReportable types id ∧
          10 ^ Decimal.maxExponent ≤ |(subtreeSum types precision rows id).value|) := by
  refine (spentByType_ok_or_overflow types hprecision hcosts).imp_right ?_
  rintro ⟨hfailure, ⟨id, amount⟩, hentry, hlarge⟩
  have hid := isReportable_of_mem (Sums.mem_ids_of_mem hentry)
  refine ⟨hfailure, id, hid, ?_⟩
  rw [← typeSum_eq_subtreeSum hzero hdepth hid, ← (mem_typeSums.mp hentry).1]
  exact hlarge

/-- A report lists each sum that is not zero once, and nothing else. -/
structure ListsSums (types : List SpendType) (precision : Nat) (rows : List SpendRecord)
    (entries : List TypeSpent) : Prop where
  nodup : (entries.map (·.typeId)).Nodup
  reportable : ∀ entry ∈ entries, IsReportable types entry.typeId
  sums : ∀ id, IsReportable types id → ∀ spent,
    (∃ entry ∈ entries, entry.typeId = id ∧ entry.spent = spent) ↔
      spent = subtreeSum types precision rows id ∧ spent.value ≠ 0
  untyped : ∀ entry ∈ entries, entry.typeId = noType → entry.name = untypedName

/-- A report of a forest lists exactly the types whose subtrees do not come to zero, each once and
with that sum, and likewise the spends without a type. But there is a report only for amounts of
limited precision: a sum with more digits after the point than a decimal can be shifted by keeps
it from being given, whatever the sum is. -/
theorem listsSums_spentByType (hzero : ∀ type ∈ types, type.id ≠ noType)
    (hdepth : IsWithinDepth types) (rows : List SpendRecord) (precision : Nat) :
    (∀ entries, spentByType types rows precision = .ok entries →
      ListsSums types precision rows entries) ∧
    (∀ id, IsReportable types id → (subtreeSum types precision rows id).value ≠ 0 →
      (Money.decimalPlaces < precision ∨
        ∃ row ∈ rows, CountsFor types id row ∧ Money.decimalPlaces < row.cost.precision) →
      ∃ failure, spentByType types rows precision = .error failure) ∧
    (precision ≤ Money.decimalPlaces →
      (∀ row ∈ rows, row.cost.precision ≤ Money.decimalPlaces) →
      (∃ entries, spentByType types rows precision = .ok entries) ∨
        (spentByType types rows precision = .error (.decimal .overflow) ∧
          ∃ id, IsReportable types id ∧
            10 ^ Decimal.maxExponent ≤ |(subtreeSum types precision rows id).value|)) := by
  have hsum (id : Int) (hid : IsReportable types id) :=
    @typeSum_eq_subtreeSum types rows id precision hzero hdepth hid
  refine ⟨fun entries hentries => ?_, ?_, exists_report_or_overflow hzero hdepth⟩
  · obtain ⟨roots, -, hlevel, hreports⟩ := reports_of_spentByType hentries
    have hplaced := hreports.placed nodup_typeSums hlevel
    refine ⟨hreports.nodup nodup_typeSums hlevel, fun entry hentry => ?_, ?_, ?_⟩
    · exact isReportable_of_mem (Sums.mem_ids_of_mem (hplaced entry hentry).mem)
    · intro id hid spent
      rw [exists_entry_iff hdepth hentries, mem_typeSums, hsum id hid]
    · intro entry hentry hnone
      rw [hreports.name_eq entry hentry, if_pos hnone]
  · intro id hid hne hplaces
    obtain ⟨hreportPlaces, hcostPlaces⟩ := precision_le_subtreeSum types precision rows id
    have hprecise : Money.decimalPlaces < (subtreeSum types precision rows id).precision := by
      rcases hplaces with hplaces | ⟨row, hrow, hcounts, hplaces⟩
      · exact lt_of_lt_of_le hplaces (Int.ofNat_le.mpr hreportPlaces)
      · exact lt_of_lt_of_le hplaces (Int.ofNat_le.mpr (hcostPlaces row hrow hcounts))
    cases hreport : spentByType types rows precision with
    | error failure => exact ⟨failure, rfl⟩
    | ok entries =>
        have hmem := mem_typeSums.mpr ⟨(hsum id hid).symm, hne⟩
        obtain ⟨d, hd⟩ := exists_decimal_of_mem hdepth hreport hmem
        rw [Money.toDecimal_of_decimalPlaces_lt hprecise] at hd
        cases hd

/-- Lunch and carrots are listed with all food, and a spend of an unknown type without one. -/
theorem listsSums_lunchAndCarrots :
    let types : List SpendType := [⟨1, "Food", 0⟩, ⟨2, "Vegetables", 1⟩]
    let rows : List SpendRecord := [⟨1, 2025, 1, 2, "Carrots", ⟨1000, 2⟩, 2, ""⟩,
      ⟨2, 2025, 1, 3, "Lunch", ⟨5, 0⟩, 1, ""⟩, ⟨3, 2025, 1, 4, "Stamps", ⟨40, 1⟩, 7, ""⟩]
    ∃ entries, spentByType types rows 2 = .ok entries ∧ ListsSums types 2 rows entries := by
  intro types rows
  obtain ⟨entries, hentries⟩ := exists_report types (by decide : (2 : Int) ≤ Money.decimalPlaces)
    (by decide : ∀ row ∈ rows, (row.cost.precision : Int) ≤ Money.decimalPlaces) (by decide)
  have hzero : ∀ type ∈ types, type.id ≠ noType := by decide
  have hall := listsSums_spentByType hzero (by decide) rows 2
  exact ⟨entries, hentries, hall.1 entries hentries⟩

/-- Tea at one digit more after the point than a decimal can be shifted by: what is spent on food is
not zero, but there is no report. -/
theorem no_report_overpreciseTea :
    let types : List SpendType := [⟨1, "Food", 0⟩]
    let rows : List SpendRecord := [⟨1, 2025, 1, 14, "Tea", ⟨1, 2000055⟩, 1, ""⟩]
    (∀ type ∈ types, type.id ≠ noType) ∧ IsWithinDepth types ∧
      (subtreeSum types 2 rows 1).value ≠ 0 ∧
      spentByType types rows 2 = .error (.decimal .invalidOperation) := by
  intro types rows
  have hzero : ∀ type ∈ types, type.id ≠ noType := by decide
  have hdepth : IsWithinDepth types := by decide
  have hsum : typeSum types 2 rows 1 = .zero 2 + ⟨1, 2000055⟩ := rfl
  have hvalue : (typeSum types 2 rows 1).value ≠ 0 := by
    rw [hsum, Money.value_add, Money.value_zero, zero_add, Money.value]
    exact div_ne_zero (by norm_num) (pow_ne_zero _ (by norm_num))
  have hdecimal : (typeSum types 2 rows 1).toDecimal = .error (.decimal .invalidOperation) := by
    apply Money.toDecimal_of_decimalPlaces_lt
    rw [hsum, Money.precision_add]
    decide
  refine ⟨hzero, hdepth, ?_, ?_⟩
  · rw [← typeSum_eq_subtreeSum hzero hdepth (.inr ⟨_, List.mem_singleton_self _, rfl⟩)]
    exact hvalue
  · cases hreport : spentByType types rows 2 with
    | ok entries =>
        obtain ⟨d, hd⟩ := exists_decimal_of_mem hdepth hreport (mem_typeSums.mpr ⟨rfl, hvalue⟩)
        rw [hdecimal] at hd
        cases hd
    | error failure =>
        obtain ⟨⟨id, amount⟩, hentry, hfailing⟩ := spentByType_eq_error hreport
        obtain ⟨rfl, hne⟩ := mem_typeSums.mp hentry
        rcases isReportable_of_mem (Sums.mem_ids_of_mem hentry) with rfl | ⟨type, htype, rfl⟩
        · exact absurd (Money.value_zero 2) hne
        · obtain rfl := List.mem_singleton.mp htype
          rw [Except.error.inj (hfailing.symm.trans hdecimal)]

/-! ## The root of a report -/

/-- What the entries at the root come to together. -/
def rootTotal (entries : List TypeSpent) : ℚ :=
  ((entries.filter (·.depth = 0)).map (·.spent.value)).sum

/-- What the types with a parent that are at the root all the same come to together. -/
def movedTotal (types : List SpendType) (entries : List TypeSpent) : ℚ :=
  (((entries.filter (·.depth = 0)).filter (¬ IsParentless types ·.typeId)).map (·.spent.value)).sum

variable {entries : List TypeSpent}

/-- All that has no parent comes to all spends together. -/
theorem sum_isParentless (hzero : ∀ type ∈ types, type.id ≠ noType) (hdepth : IsWithinDepth types) :
    (((typeSums types precision rows).filter (IsParentless types ·.1)).map (·.2.value)).sum =
      (rows.map (·.cost.value)).sum := by
  have hweigh := @weigh_typeSums types rows precision fun id =>
    if IsParentless types id then 1 else 0
  have hcharged (row : SpendRecord) : ((chargedTypes types row).map fun id =>
      if IsParentless types id then (1 : ℚ) else 0).sum = 1 := by
    have hone := countP_isParentless_chargedTypes hzero hdepth row
    rw [List.countP_eq_length_filter] at hone
    simp [List.sum_map_ite, hone]
  simp only [hcharged, one_mul, Sums.weigh, ite_mul, zero_mul, List.sum_map_ite] at hweigh
  simpa using hweigh

/-- The entries at the root are those of the roots. -/
theorem perm_roots (h : spentByType types rows precision = .ok entries) :
    ((entries.filter (·.depth = 0)).map fun entry => (entry.typeId, entry.spent)).Perm
      (reportRoots types (typeSums types precision rows)) := by
  obtain ⟨roots, hroots, hlevel, hreports⟩ := reports_of_spentByType h
  rw [hreports.filter_depth nodup_typeSums hlevel]
  exact (bySpent_spec hroots).1

theorem rootTotal_eq_roots (h : spentByType types rows precision = .ok entries) :
    rootTotal entries =
      ((reportRoots types (typeSums types precision rows)).map (·.2.value)).sum := by
  rw [← ((perm_roots h).map _).sum_eq, List.map_map]
  rfl

/-- What has no parent is at the root of every report. -/
theorem perm_isParentless (types : List SpendType) (precision : Nat) (rows : List SpendRecord) :
    ((reportRoots types (typeSums types precision rows)).filter (IsParentless types ·.1)).Perm
      ((typeSums types precision rows).filter (IsParentless types ·.1)) := by
  have hlevel := isLevel_typeSums types precision rows
  have hnodup : (typeSums types precision rows).Nodup := nodup_typeSums.of_map _
  rw [List.perm_ext_iff_of_nodup ((hlevel.nodup.of_map _).filter _) (hnodup.filter _)]
  intro entry
  rw [List.mem_filter, List.mem_filter, mem_reportRoots, and_assoc]
  refine and_congr_right fun hmem => and_iff_right_of_imp fun hparentless => ?_
  exact standsAt_of_isParentless (of_decide_eq_true hparentless) (Sums.mem_ids_of_mem hmem)

theorem rootTotal_eq (hzero : ∀ type ∈ types, type.id ≠ noType) (hdepth : IsWithinDepth types)
    (h : spentByType types rows precision = .ok entries) :
    rootTotal entries = (rows.map (·.cost.value)).sum + movedTotal types entries := by
  have hparentless : (((entries.filter (·.depth = 0)).filter (IsParentless types ·.typeId)).map
      (·.spent.value)).sum = (rows.map (·.cost.value)).sum := by
    rw [← sum_isParentless hzero hdepth,
      ← (((perm_roots h).filter _).trans (perm_isParentless types precision rows)).map _ |>.sum_eq,
      List.filter_map, List.map_map]
    rfl
  rw [rootTotal, movedTotal, ← hparentless]
  exact (List.sum_map_filter_add_sum_map_filter_not _ _ _).symm

/-- Of the types with a parent those are at the root whose parents come to nothing. -/
theorem depth_eq_zero_iff (hzero : ∀ type ∈ types, type.id ≠ noType)
    (h : spentByType types rows precision = .ok entries) {entry : TypeSpent}
    (hentry : entry ∈ entries) {parent : Int} (hparent : parentOf? types entry.typeId = some parent)
    (hne : parent ≠ noType) :
    entry.depth = 0 ↔ (typeSum types precision rows parent).value = 0 := by
  obtain ⟨roots, -, hlevel, hreports⟩ := reports_of_spentByType h
  have hstands := (hreports.placed nodup_typeSums hlevel entry hentry).stands
  generalize entry.typeId = id at hstands hparent
  generalize entry.depth = depth at hstands
  constructor
  · rintro rfl
    by_contra hsum
    have hreported := reportedParent_of_mem hparent (mem_ids_typeSums.mpr hsum)
    cases hstands with
    | untyped =>
        rw [parentOf?_eq_none hzero] at hparent
        cases hparent
    | root _ _ hroot => exact hne (hreported.symm.trans hroot)
  · intro hsum
    cases depth with
    | zero => rfl
    | succ above =>
        obtain ⟨hknown, habove⟩ := hstands.parent
        obtain rfl := Option.some.inj (hparent.symm.trans hknown)
        exact absurd hsum (mem_ids_typeSums.mp habove.mem)

/-- What a report of a forest has at its root comes to all spends together and, on top of these, to
what the types there come to that have a parent. They are there because their parents come to
nothing, and what is spent with them counts for the one number without a parent as well. -/
theorem rootTotal_spentByType (hzero : ∀ type ∈ types, type.id ≠ noType)
    (hdepth : IsWithinDepth types) (rows : List SpendRecord) (precision : Nat) :
    (∀ entries, spentByType types rows precision = .ok entries →
      rootTotal entries = (rows.map (·.cost.value)).sum + movedTotal types entries ∧
      ∀ entry ∈ entries, ∀ parent, parentOf? types entry.typeId = some parent → parent ≠ noType →
        (entry.depth = 0 ↔ (subtreeSum types precision rows parent).value = 0)) ∧
    (∀ row ∈ rows, ∃! id, IsReportable types id ∧ IsParentless types id ∧
      CountsFor types id row) ∧
    (precision ≤ Money.decimalPlaces →
      (∀ row ∈ rows, row.cost.precision ≤ Money.decimalPlaces) →
      (∃ entries, spentByType types rows precision = .ok entries) ∨
        (spentByType types rows precision = .error (.decimal .overflow) ∧
          ∃ id, IsReportable types id ∧
            10 ^ Decimal.maxExponent ≤ |(subtreeSum types precision rows id).value|)) := by
  refine ⟨fun entries hentries => ⟨rootTotal_eq hzero hdepth hentries, ?_⟩,
    fun row _ => existsUnique_countsFor hzero hdepth row, exists_report_or_overflow hzero hdepth⟩
  intro entry hentry parent hparent hne
  have hknown : IsReportable types parent := .inr (exists_type_of_parent hdepth hparent hne)
  rw [depth_eq_zero_iff hzero hentries hentry hparent hne,
    typeSum_eq_subtreeSum hzero hdepth hknown]

/-- A refund for groceries that undoes the vegetables leaves these at the root, although they count
for all food as well. So the entries at the root come to fifteen where five have been spent. -/
theorem rootTotal_refundedGroceries :
    let types : List SpendType := [⟨1, "Food", 0⟩, ⟨2, "Groceries", 1⟩, ⟨3, "Vegetables", 2⟩]
    let rows : List SpendRecord := [⟨1, 2025, 1, 2, "Carrots", ⟨1000, 2⟩, 3, ""⟩,
      ⟨2, 2025, 1, 3, "Refund", ⟨-1000, 2⟩, 2, ""⟩, ⟨3, 2025, 1, 4, "Lunch", ⟨500, 2⟩, 1, ""⟩]
    (∀ type ∈ types, type.id ≠ noType) ∧ IsWithinDepth types ∧
      ∃ entries, spentByType types rows 2 = .ok entries ∧ rootTotal entries = 15 ∧
        (rows.map (·.cost.value)).sum = 5 := by
  intro types rows
  obtain ⟨entries, hentries⟩ := exists_report types (by decide : (2 : Int) ≤ Money.decimalPlaces)
    (by decide : ∀ row ∈ rows, (row.cost.precision : Int) ≤ Money.decimalPlaces) (by decide)
  refine ⟨by decide, by decide, entries, hentries, ?_, ?_⟩
  · have hroots : reportRoots types (typeSums types 2 rows) = [(3, ⟨1000, 2⟩), (1, ⟨500, 2⟩)] := by
      decide
    rw [rootTotal_eq_roots hentries, hroots]
    simp only [List.map_cons, List.map_nil, List.sum_cons, List.sum_nil, Money.value]
    norm_num
  · simp only [rows, List.map_cons, List.map_nil, List.sum_cons, List.sum_nil, Money.value]
    norm_num

/-- The same spends: the vegetables are all that has been moved to the root. -/
theorem rootTotal_movedVegetables :
    let types : List SpendType := [⟨1, "Food", 0⟩, ⟨2, "Groceries", 1⟩, ⟨3, "Vegetables", 2⟩]
    let rows : List SpendRecord := [⟨1, 2025, 1, 2, "Carrots", ⟨1000, 2⟩, 3, ""⟩,
      ⟨2, 2025, 1, 3, "Refund", ⟨-1000, 2⟩, 2, ""⟩, ⟨3, 2025, 1, 4, "Lunch", ⟨500, 2⟩, 1, ""⟩]
    ∃ entries, spentByType types rows 2 = .ok entries ∧
      rootTotal entries = (rows.map (·.cost.value)).sum + movedTotal types entries := by
  intro types rows
  obtain ⟨entries, hentries⟩ := exists_report types (by decide : (2 : Int) ≤ Money.decimalPlaces)
    (by decide : ∀ row ∈ rows, (row.cost.precision : Int) ≤ Money.decimalPlaces) (by decide)
  have hzero : ∀ type ∈ types, type.id ≠ noType := by decide
  have hall := rootTotal_spentByType hzero (by decide) rows 2
  exact ⟨entries, hentries, (hall.1 entries hentries).1⟩

end Allowance.Statistics
