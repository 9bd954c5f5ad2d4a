import Allowance.Proofs.Money.Decimal
import Allowance.Proofs.Outcome
import Allowance.Proofs.Statistics.Standing

/-!
# How a report is written

A report is written from the root down: every type after its siblings that come before it, and
directly before the types below it. The depth up to which this is done is bounded, but the bound is
never met, so that the report is what an unbounded descent writes.
-/

namespace Allowance.Statistics

open Number Outcome SpendType

variable {types : List SpendType} {sums siblings sorted : Sums} {depth : Nat}

/-! ## Siblings -/

/-- A greater amount comes first, and of equal amounts that with the lesser number. -/
def Precedes (a b : Int × Money) : Prop :=
  b.2.value < a.2.value ∨ (a.2.value = b.2.value ∧ a.1 < b.1)

theorem mapM_toDecimal_eq_ok {keyed : List (Decimal × Int × Money)} :
    siblings.mapM (fun entry => do return (← entry.2.toDecimal, entry)) = .ok keyed ↔
      keyed.map (·.2) = siblings ∧ ∀ key ∈ keyed, key.2.2.toDecimal = .ok key.1 := by
  rw [mapM_eq_ok]
  induction siblings generalizing keyed with
  | nil => cases keyed <;> simp
  | cons sibling rest ih =>
      cases keyed with
      | nil => simp
      | cons key others =>
          obtain ⟨d, entry⟩ := key
          simp only [List.map_cons, List.cons.injEq, ih, List.forall_mem_cons, bind_eq_ok,
            pure_eq_ok, Prod.mk.injEq]
          constructor
          · rintro ⟨⟨d, hd, rfl, rfl⟩, hrest, hall⟩
            exact ⟨⟨rfl, hrest⟩, hd, hall⟩
          · rintro ⟨⟨rfl, hrest⟩, hd, hall⟩
            exact ⟨⟨d, hd, rfl, rfl⟩, hrest, hall⟩

/-- The order in which siblings are put: that of their decimals, which may be rounded. -/
def KeyPrecedes (a b : Decimal × Int × Money) : Prop :=
  b.1.value < a.1.value ∨ (a.1.value = b.1.value ∧ a.2.1 ≤ b.2.1)

theorem keyPrecedes_iff {a b : Decimal × Int × Money} :
    (b.1.less a.1 || (!a.1.less b.1 && decide (a.2.1 ≤ b.2.1))) = true ↔ KeyPrecedes a b := by
  rw [Bool.or_eq_true, Bool.and_eq_true, Bool.not_eq_true', ← Bool.not_eq_true, Decimal.less_iff,
    Decimal.less_iff, decide_eq_true_iff, KeyPrecedes]
  constructor
  · rintro (hlt | ⟨hnot, hnumber⟩)
    · exact .inl hlt
    · rcases lt_or_eq_of_le (not_lt.mp hnot) with hlt | heq
      · exact .inl hlt
      · exact .inr ⟨heq.symm, hnumber⟩
  · rintro (hlt | ⟨heq, hnumber⟩)
    · exact .inl hlt
    · exact .inr ⟨heq.not_lt, hnumber⟩

theorem KeyPrecedes.trans {a b c : Decimal × Int × Money} (hab : KeyPrecedes a b)
    (hbc : KeyPrecedes b c) : KeyPrecedes a c := by
  rcases hab with hab | ⟨hab, hfirst⟩ <;> rcases hbc with hbc | ⟨hbc, hsecond⟩
  · exact .inl (hbc.trans hab)
  · exact .inl (hbc ▸ hab)
  · exact .inl (hab ▸ hbc)
  · exact .inr ⟨hab.trans hbc, hfirst.trans hsecond⟩

theorem keyPrecedes_total (a b : Decimal × Int × Money) : KeyPrecedes a b ∨ KeyPrecedes b a := by
  rcases lt_trichotomy a.1.value b.1.value with hlt | heq | hgt
  · exact .inr (.inl hlt)
  · rcases le_total a.2.1 b.2.1 with hnumber | hnumber
    · exact .inl (.inr ⟨heq, hnumber⟩)
    · exact .inr (.inr ⟨heq.symm, hnumber⟩)
  · exact .inl (.inl hgt)

/-- Siblings can be put in order if each of them has a decimal, and then they are in the order of
their decimals. -/
theorem bySpent_spec (h : bySpent siblings = .ok sorted) :
    sorted.Perm siblings ∧ (∀ sibling ∈ siblings, ∃ d, sibling.2.toDecimal = .ok d) ∧
      sorted.Pairwise fun a b => ∀ x y, a.2.toDecimal = .ok x → b.2.toDecimal = .ok y →
        KeyPrecedes (x, a) (y, b) := by
  obtain ⟨keyed, hkeyed, hsorted⟩ := bind_eq_ok.mp h
  obtain ⟨rfl, hdecimals⟩ := mapM_toDecimal_eq_ok.mp hkeyed
  obtain rfl := pure_eq_ok.mp hsorted
  refine ⟨(List.mergeSort_perm _ _).map _, ?_, ?_⟩
  · intro sibling hsibling
    obtain ⟨key, hkey, rfl⟩ := List.mem_map.mp hsibling
    exact ⟨key.1, hdecimals key hkey⟩
  · rw [List.pairwise_map]
    refine (List.pairwise_mergeSort ?_ ?_ keyed).imp_of_mem ?_
    · intro a b c hab hbc
      exact keyPrecedes_iff.mpr ((keyPrecedes_iff.mp hab).trans (keyPrecedes_iff.mp hbc))
    · intro a b
      rw [Bool.or_eq_true, keyPrecedes_iff, keyPrecedes_iff]
      exact keyPrecedes_total a b
    · intro a b ha hb hab x y hx hy
      have hxa := (hdecimals a (List.mem_mergeSort.mp ha)).symm.trans hx
      have hyb := (hdecimals b (List.mem_mergeSort.mp hb)).symm.trans hy
      rw [← Except.ok.inj hxa, ← Except.ok.inj hyb]
      exact keyPrecedes_iff.mp hab

theorem bySpent_eq_error {failure : Failure} (h : bySpent siblings = .error failure) :
    ∃ sibling ∈ siblings, sibling.2.toDecimal = .error failure := by
  rcases bind_eq_error.mp h with hkeyed | ⟨_, _, hdone⟩
  · obtain ⟨sibling, hmem, hfailing⟩ := exists_of_mapM_eq_error hkeyed
    rcases bind_eq_error.mp hfailing with hdecimal | ⟨_, _, hdone⟩
    · exact ⟨sibling, hmem, hdecimal⟩
    · cases hdone
  · cases hdone

theorem bySpent_nil : bySpent [] = .ok [] := by
  simp [bySpent, pure, Except.pure, bind, Except.bind]

/-! ## Subtrees -/

/-- The entry of a sum, and of a type also the entries for the types below it. -/
def subtreeEntries (types : List SpendType) (sums : Sums) (levels depth : Nat)
    (entry : Int × Money) : Except Failure (List TypeSpent) :=
  if entry.1 = noType then
    .ok [⟨noType, untypedName, entry.2, depth⟩]
  else
    (entriesFor types sums levels (depth + 1) (reportedChildren types sums entry.1)).map
      (⟨entry.1, (fullName? types entry.1).getD untypedName, entry.2, depth⟩ :: ·)

theorem entriesFor_eq_subtreeEntries (levels : Nat) :
    entriesFor types sums (levels + 1) depth siblings =
      (bySpent siblings >>= fun sorted =>
        (sorted.mapM (subtreeEntries types sums levels depth)).map List.flatten) := by
  have hsubtree (entry : Int × Money) :
      (if entry.1 = noType then
        return [⟨entry.1, untypedName, entry.2, depth⟩]
      else do
        let name := (fullName? types entry.1).getD untypedName
        let below ← entriesFor types sums levels (depth + 1) (reportedChildren types sums entry.1)
        return ⟨entry.1, name, entry.2, depth⟩ :: below) =
        subtreeEntries types sums levels depth entry := by
    unfold subtreeEntries
    split
    next hid => rw [hid]; rfl
    next => rfl
  simp only [← funext hsubtree]
  rfl

variable {levels : Nat} {entries : List TypeSpent}

theorem entriesFor_eq_ok : entriesFor types sums (levels + 1) depth siblings = .ok entries ↔
    ∃ sorted, bySpent siblings = .ok sorted ∧ ∃ parts : List (List TypeSpent),
      sorted.map (subtreeEntries types sums levels depth) = parts.map .ok ∧
        parts.flatten = entries := by
  simp only [entriesFor_eq_subtreeEntries, bind_eq_ok, map_eq_ok, mapM_eq_ok]

/-! ## The unbounded descent -/

/-- The entries for sorted siblings and for all that is below them, whatever their depth. -/
inductive Reports (types : List SpendType) (sums : Sums) : Nat → Sums → List TypeSpent → Prop where
  | nil {depth : Nat} : Reports types sums depth [] []
  | untyped {depth : Nat} {spent : Money} {later : Sums} {entries : List TypeSpent}
      (h : Reports types sums depth later entries) :
      Reports types sums depth ((noType, spent) :: later)
        (⟨noType, untypedName, spent, depth⟩ :: entries)
  | typed {depth : Nat} {id : Int} {spent : Money} {later children : Sums}
      {under entries : List TypeSpent} (hid : id ≠ noType)
      (hchildren : bySpent (reportedChildren types sums id) = .ok children)
      (hunder : Reports types sums (depth + 1) children under)
      (h : Reports types sums depth later entries) :
      Reports types sums depth ((id, spent) :: later)
        (⟨id, (fullName? types id).getD untypedName, spent, depth⟩ :: (under ++ entries))

/-- No sum stands below the depth to which a report is written. -/
theorem IsLevel.eq_nil (h : IsLevel types sums depth siblings) (hdepth : sums.length ≤ depth) :
    siblings = [] := by
  rw [List.eq_nil_iff_forall_not_mem]
  intro sibling hsibling
  have := (h.stands sibling hsibling).depth_lt
  omega

/-- Whatever is written with enough levels is what an unbounded descent writes. -/
theorem reports_of_entriesFor (hnodup : (Sums.ids sums).Nodup)
    (hlevel : IsLevel types sums depth siblings) (hlevels : sums.length ≤ levels + depth)
    (h : entriesFor types sums levels depth siblings = .ok entries) :
    ∃ sorted, bySpent siblings = .ok sorted ∧ Reports types sums depth sorted entries := by
  induction levels generalizing depth siblings entries with
  | zero =>
      obtain rfl := hlevel.eq_nil (by omega)
      obtain rfl := Except.ok.inj h
      exact ⟨[], bySpent_nil, .nil⟩
  | succ levels ih =>
      obtain ⟨sorted, hsorted, parts, hparts, rfl⟩ := entriesFor_eq_ok.mp h
      refine ⟨sorted, hsorted, ?_⟩
      have hsortedLevel := hlevel.perm (bySpent_spec hsorted).1
      clear hsorted h hlevel
      induction sorted generalizing parts with
      | nil =>
          obtain rfl := List.map_eq_nil_iff.mp hparts.symm
          exact .nil
      | cons entry later ihLater =>
          obtain ⟨id, spent⟩ := entry
          obtain ⟨part, others, rfl, hpart, hothers⟩ := List.map_eq_cons_iff.mp hparts.symm
          have hlater := ihLater others hothers.symm hsortedLevel.tail
          rw [List.flatten_cons]
          by_cases hid : id = noType
          · subst hid
            rw [subtreeEntries, if_pos rfl] at hpart
            obtain rfl := Except.ok.inj hpart
            exact .untyped hlater
          · rw [subtreeEntries, if_neg hid] at hpart
            obtain ⟨under, hunder, rfl⟩ := map_eq_ok.mp hpart.symm
            have hstands := hsortedLevel.stands _ List.mem_cons_self
            obtain ⟨children, hchildren, hreports⟩ :=
              ih (IsLevel.children hnodup hid hstands) (by omega) hunder
            exact .typed hid hchildren hreports hlater

/-- Only a sum without a decimal keeps a report from being written. -/
theorem entriesFor_eq_error {failure : Failure} (hmem : ∀ sibling ∈ siblings, sibling ∈ sums)
    (h : entriesFor types sums levels depth siblings = .error failure) :
    ∃ entry ∈ sums, entry.2.toDecimal = .error failure := by
  induction levels generalizing depth siblings with
  | zero => cases h
  | succ levels ih =>
      rw [entriesFor_eq_subtreeEntries, bind_eq_error] at h
      rcases h with hsorted | ⟨sorted, -, hparts⟩
      · obtain ⟨sibling, hsibling, hfailing⟩ := bySpent_eq_error hsorted
        exact ⟨sibling, hmem sibling hsibling, hfailing⟩
      · obtain ⟨entry, -, hpart⟩ := exists_of_mapM_eq_error (map_eq_error.mp hparts)
        unfold subtreeEntries at hpart
        split at hpart
        next => cases hpart
        next =>
          exact ih (fun child hchild => (mem_reportedChildren.mp hchild).1)
            (map_eq_error.mp hpart)

/-! ## Whole reports -/

variable {rows : List SpendRecord} {precision : Nat}

theorem spentByType_eq (types : List SpendType) (rows : List SpendRecord) (precision : Nat) :
    spentByType types rows precision =
      entriesFor types (typeSums types precision rows) ((typeSums types precision rows).length + 1)
        0 (reportRoots types (typeSums types precision rows)) := by
  cases rows <;> rfl

theorem isLevel_typeSums (types : List SpendType) (precision : Nat) (rows : List SpendRecord) :
    IsLevel types (typeSums types precision rows) 0
      (reportRoots types (typeSums types precision rows)) :=
  isLevel_reportRoots nodup_typeSums

/-- The report is what the unbounded descent from the sorted roots writes. -/
theorem reports_of_spentByType (h : spentByType types rows precision = .ok entries) :
    ∃ roots, bySpent (reportRoots types (typeSums types precision rows)) = .ok roots ∧
      IsLevel types (typeSums types precision rows) 0 roots ∧
      Reports types (typeSums types precision rows) 0 roots entries := by
  rw [spentByType_eq] at h
  have hlevel := isLevel_typeSums types precision rows
  obtain ⟨roots, hroots, hreports⟩ := reports_of_entriesFor nodup_typeSums hlevel (by omega) h
  exact ⟨roots, hroots, hlevel.perm (bySpent_spec hroots).1, hreports⟩

/-- Only a sum without a decimal keeps a report from being given. -/
theorem spentByType_eq_error {failure : Failure}
    (h : spentByType types rows precision = .error failure) :
    ∃ entry ∈ typeSums types precision rows, entry.2.toDecimal = .error failure := by
  rw [spentByType_eq] at h
  exact entriesFor_eq_error (fun root hroot => (mem_reportRoots.mp hroot).1) h

/-- Amounts that are not too precise have a report, unless a sum is too large. -/
theorem spentByType_ok_or_overflow (types : List SpendType)
    (hprecision : precision ≤ Money.decimalPlaces)
    (hcosts : ∀ row ∈ rows, row.cost.precision ≤ Money.decimalPlaces) :
    (∃ entries, spentByType types rows precision = .ok entries) ∨
      (spentByType types rows precision = .error (.decimal .overflow) ∧
        ∃ entry ∈ typeSums types precision rows, 10 ^ Decimal.maxExponent ≤ |entry.2.value|) := by
  cases hreport : spentByType types rows precision with
  | ok entries => exact .inl ⟨entries, rfl⟩
  | error failure =>
      obtain ⟨⟨id, amount⟩, hentry, hfailing⟩ := spentByType_eq_error hreport
      rcases Money.toDecimal_eq_error hfailing with ⟨-, hplaces⟩ | ⟨rfl, hlarge⟩
      · obtain ⟨rfl, -⟩ := mem_typeSums.mp hentry
        have hle := @precision_typeSum_le types rows precision id Money.decimalPlaces.toNat
          (by omega) fun row hrow => by
            have := hcosts row hrow
            omega
        dsimp only at hplaces
        omega
      · exact .inr ⟨rfl, _, hentry, hlarge⟩

/-- There is a report of amounts that are neither too precise nor too long. -/
theorem exists_report (types : List SpendType) (hprecision : precision ≤ Money.decimalPlaces)
    (hcosts : ∀ row ∈ rows, row.cost.precision ≤ Money.decimalPlaces)
    (hshort : ∀ entry ∈ typeSums types precision rows, entry.2.IsShort) :
    ∃ entries, spentByType types rows precision = .ok entries := by
  refine (spentByType_ok_or_overflow types hprecision hcosts).resolve_right ?_
  rintro ⟨-, entry, hentry, hlarge⟩
  exact absurd (Money.abs_value_lt_of_isShort (hshort entry hentry)) (not_lt.mpr hlarge)

end Allowance.Statistics
