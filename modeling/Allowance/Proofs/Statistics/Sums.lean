import Mathlib.Algebra.BigOperators.Ring.List
import Allowance.Proofs.Money.Arithmetic
import Allowance.Statistics.ByType

/-!
# Sums by spend type

What the list of sums holds after all spends of a report have been added to it: every number once,
with the costs of all spends that count for it in their order.
-/

namespace Allowance.Statistics

namespace Sums

def ids (sums : Sums) : List Int :=
  sums.map (·.1)

/-- The sum of a number, which is nothing as long as the number has not come up. -/
def amountOf (precision : Nat) (sums : Sums) (id : Int) : Money :=
  ((sums.find? (·.1 == id)).map (·.2)).getD (.zero precision)

/-- The values of all sums together, each counted as often as its number weighs. -/
def weigh (weight : Int → ℚ) (sums : Sums) : ℚ :=
  (sums.map fun entry => weight entry.1 * entry.2.value).sum

variable {precision : Nat} {cost : Money} {sums : Sums} {id : Int}

theorem mem_ids_of_mem {entry : Int × Money} (h : entry ∈ sums) : entry.1 ∈ ids sums :=
  List.mem_map_of_mem h

theorem any_eq_true_iff : (sums.any (·.1 == id)) = true ↔ id ∈ ids sums := by
  simp [ids]

theorem find?_eq_none (h : id ∉ ids sums) : sums.find? (·.1 == id) = none := by
  rw [List.find?_eq_none]
  intro entry hentry heq
  exact h (beq_iff_eq.mp heq ▸ mem_ids_of_mem hentry)

theorem amountOf_of_not_mem (h : id ∉ ids sums) : amountOf precision sums id = .zero precision := by
  rw [amountOf, find?_eq_none h]
  rfl

theorem mem_iff_amountOf (hnodup : (ids sums).Nodup) (precision : Nat) {amount : Money} :
    (id, amount) ∈ sums ↔ id ∈ ids sums ∧ amount = amountOf precision sums id := by
  induction sums with
  | nil => simp [ids]
  | cons entry rest ih =>
      obtain ⟨first, held⟩ := entry
      obtain ⟨hfirst, hrest⟩ := List.nodup_cons.mp hnodup
      by_cases hid : first = id
      · subst hid
        have hnot : (first, amount) ∉ rest := fun hmem =>
          hfirst (List.mem_map.mpr ⟨_, hmem, rfl⟩)
        simp [ids, amountOf, hnot]
      · have hne : (first == id) = false := beq_eq_false_iff_ne.mpr hid
        have hother : (id, amount) ≠ (first, held) := fun h => hid (congrArg Prod.fst h).symm
        have hamount : amountOf precision ((first, held) :: rest) id =
            amountOf precision rest id := by
          simp only [amountOf, List.find?_cons_of_neg, hne, not_false_eq_true, Bool.false_eq_true]
        rw [List.mem_cons, or_iff_right hother, ih hrest, hamount, ids, ids, List.map_cons,
          List.mem_cons, or_iff_right (Ne.symm hid)]

/-! ## Adding a cost -/

/-- A cost is added to the sum that its number has, or makes a new one at the end. -/
theorem add_cases (hnodup : (ids sums).Nodup) (precision : Nat) (cost : Money) (id : Int) :
    (id ∉ ids sums ∧ add precision cost sums id = sums ++ [(id, .zero precision + cost)]) ∨
      ∃ before old after, sums = before ++ (id, old) :: after ∧ id ∉ ids before ∧
        add precision cost sums id = before ++ (id, old + cost) :: after := by
  unfold add
  split
  next hany =>
    refine .inr ?_
    obtain ⟨⟨first, old⟩, hmem, hid⟩ := List.mem_map.mp (any_eq_true_iff.mp hany)
    rw [show first = id from hid] at hmem
    obtain ⟨before, after, rfl⟩ := List.append_of_mem hmem
    rw [ids, List.map_append, List.map_cons] at hnodup
    obtain ⟨-, hlater, hdisjoint⟩ := List.nodup_append.mp hnodup
    have hbefore : id ∉ ids before := fun h => hdisjoint id h id List.mem_cons_self rfl
    have hkept {entries : Sums} (h : id ∉ ids entries) :
        entries.map (fun entry => if entry.1 == id then (id, entry.2 + cost) else entry) =
          entries := by
      conv_rhs => rw [← List.map_id entries]
      apply List.map_congr_left
      intro entry hentry
      rw [if_neg, id_eq]
      exact fun heq => h (beq_iff_eq.mp heq ▸ mem_ids_of_mem hentry)
    refine ⟨before, old, after, rfl, hbefore, ?_⟩
    rw [List.map_append, List.map_cons, hkept hbefore, hkept (List.nodup_cons.mp hlater).1,
      if_pos (beq_self_eq_true id)]
  next hany => exact .inl ⟨fun h => hany (any_eq_true_iff.mpr h), rfl⟩

theorem nodup_add (hnodup : (ids sums).Nodup) : (ids (add precision cost sums id)).Nodup := by
  rcases add_cases hnodup precision cost id with
    ⟨hnew, hadd⟩ | ⟨before, old, after, rfl, -, hadd⟩
  · rw [hadd, ids, List.map_append, List.map_singleton, ← List.concat_eq_append]
    exact hnodup.concat hnew
  · rw [hadd]
    simpa [ids] using hnodup

theorem amountOf_add (hnodup : (ids sums).Nodup) (other : Int) :
    amountOf precision (add precision cost sums id) other =
      if other = id then amountOf precision sums id + cost else amountOf precision sums other := by
  rcases add_cases hnodup precision cost id with
    ⟨hnew, hadd⟩ | ⟨before, old, after, rfl, hbefore, hadd⟩
  · rw [hadd, amountOf_of_not_mem hnew]
    split
    next heq =>
      subst heq
      simp [amountOf, List.find?_append, find?_eq_none hnew]
    next hne =>
      have hlast : ¬ id = other := fun h => hne h.symm
      simp [amountOf, List.find?_append, hlast]
  · rw [hadd]
    split
    next heq =>
      subst heq
      simp [amountOf, List.find?_append, find?_eq_none hbefore]
    next hne =>
      have hmiddle : ¬ id = other := fun h => hne h.symm
      simp [amountOf, List.find?_append, hmiddle]

theorem weigh_add (hnodup : (ids sums).Nodup) (weight : Int → ℚ) :
    weigh weight (add precision cost sums id) = weigh weight sums + weight id * cost.value := by
  rcases add_cases hnodup precision cost id with
    ⟨-, hadd⟩ | ⟨before, old, after, rfl, -, hadd⟩
  · rw [hadd]
    simp [weigh, Money.value_add, Money.value_zero]
  · rw [hadd]
    simp only [weigh, List.map_append, List.map_cons, List.sum_append, List.sum_cons,
      Money.value_add]
    ring

/-! ## Adding many costs -/

/-- The sums of costs that are charged to numbers, in the order of the charges. -/
def ofCharges (precision : Nat) (charges : List (Int × Money)) : Sums :=
  charges.foldl (fun sums charge => add precision charge.2 sums charge.1) []

variable {charges : List (Int × Money)}

theorem ofCharges_append (charge : Int × Money) : ofCharges precision (charges ++ [charge]) =
    add precision charge.2 (ofCharges precision charges) charge.1 := by
  rw [ofCharges, List.foldl_append, List.foldl_cons, List.foldl_nil, ofCharges]

theorem nodup_ofCharges : (ids (ofCharges precision charges)).Nodup := by
  induction charges using List.reverseRecOn with
  | nil => exact List.nodup_nil
  | append_singleton charges charge ih =>
      rw [ofCharges_append]
      exact nodup_add ih

/-- The sum of a number is that of the costs charged to it. -/
theorem amountOf_ofCharges : amountOf precision (ofCharges precision charges) id =
    ((charges.filter (·.1 == id)).map (·.2)).foldl (· + ·) (.zero precision) := by
  induction charges using List.reverseRecOn with
  | nil => rfl
  | append_singleton charges charge ih =>
      rw [ofCharges_append, amountOf_add nodup_ofCharges, List.filter_append, List.map_append,
        List.foldl_append, ← ih]
      by_cases hid : id = charge.1
      · subst hid
        simp
      · simp [hid, Ne.symm hid]

theorem weigh_ofCharges (weight : Int → ℚ) : weigh weight (ofCharges precision charges) =
    (charges.map fun charge => weight charge.1 * charge.2.value).sum := by
  induction charges using List.reverseRecOn with
  | nil => rfl
  | append_singleton charges charge ih =>
      rw [ofCharges_append, weigh_add nodup_ofCharges, ih, List.map_append, List.sum_append]
      simp

end Sums

/-! ## The sums of a report -/

section Report

variable {types : List SpendType} {rows : List SpendRecord} {precision : Nat} {id : Int}

/-- The costs of all spends with the numbers that they count for. -/
def charges (types : List SpendType) (rows : List SpendRecord) : List (Int × Money) :=
  rows.flatMap fun row => (chargedTypes types row).map (·, row.cost)

/-- What is spent with a number altogether. -/
def typeSum (types : List SpendType) (precision : Nat) (rows : List SpendRecord) (id : Int) :
    Money :=
  (((charges types rows).filter (·.1 == id)).map (·.2)).foldl (· + ·) (.zero precision)

theorem exists_row_of_mem_charges {charge : Int × Money} (h : charge ∈ charges types rows) :
    ∃ row ∈ rows, charge.2 = row.cost := by
  obtain ⟨row, hrow, hcharge⟩ := List.mem_flatMap.mp h
  obtain ⟨charged, -, rfl⟩ := List.mem_map.mp hcharge
  exact ⟨row, hrow, rfl⟩

/-- No sum has more digits than all costs and the report. -/
theorem precision_typeSum_le {bound : Nat} (hprecision : precision ≤ bound)
    (hcosts : ∀ row ∈ rows, row.cost.precision ≤ bound) :
    (typeSum types precision rows id).precision ≤ bound := by
  refine (Money.precision_foldl_add_le_iff _ _).mpr ⟨hprecision, fun cost hcost => ?_⟩
  obtain ⟨charge, hcharge, rfl⟩ := List.mem_map.mp hcost
  obtain ⟨row, hrow, hsame⟩ := exists_row_of_mem_charges (List.mem_filter.mp hcharge).1
  rw [hsame]
  exact hcosts row hrow

theorem typeSums_eq : typeSums types precision rows =
    (Sums.ofCharges precision (charges types rows)).filter (!·.2.isZero) := by
  rw [Sums.ofCharges, charges, List.foldl_flatMap]
  simp only [List.foldl_map]
  rfl

theorem nodup_typeSums : (Sums.ids (typeSums types precision rows)).Nodup := by
  rw [typeSums_eq]
  exact (List.filter_sublist.map _).nodup Sums.nodup_ofCharges

/-- A report is about the numbers whose sum is not zero. -/
theorem mem_typeSums {amount : Money} : (id, amount) ∈ typeSums types precision rows ↔
    amount = typeSum types precision rows id ∧ amount.value ≠ 0 := by
  have hsum : typeSum types precision rows id =
      Sums.amountOf precision (Sums.ofCharges precision (charges types rows)) id :=
    Sums.amountOf_ofCharges.symm
  rw [typeSums_eq, List.mem_filter, Sums.mem_iff_amountOf Sums.nodup_ofCharges precision, ← hsum,
    Bool.not_eq_true', ← Bool.not_eq_true, Money.isZero_iff, and_assoc]
  constructor
  · rintro ⟨-, hamount, hne⟩
    exact ⟨hamount, hne⟩
  · rintro ⟨rfl, hne⟩
    refine ⟨?_, rfl, hne⟩
    by_contra hnew
    rw [hsum, Sums.amountOf_of_not_mem hnew, Money.value_zero] at hne
    exact hne rfl

theorem mem_ids_typeSums : id ∈ Sums.ids (typeSums types precision rows) ↔
    (typeSum types precision rows id).value ≠ 0 := by
  rw [Sums.ids, List.mem_map]
  constructor
  · rintro ⟨⟨_, amount⟩, hmem, rfl⟩
    obtain ⟨rfl, hne⟩ := mem_typeSums.mp hmem
    exact hne
  · intro hne
    exact ⟨(id, _), mem_typeSums.mpr ⟨rfl, hne⟩, rfl⟩

/-- Dropping the sums that come to zero does not change what the sums come to together. -/
theorem weigh_typeSums (weight : Int → ℚ) : Sums.weigh weight (typeSums types precision rows) =
    (rows.map fun row => ((chargedTypes types row).map weight).sum * row.cost.value).sum := by
  have hdropped (sums : Sums) :
      Sums.weigh weight (sums.filter (!·.2.isZero)) = Sums.weigh weight sums := by
    induction sums with
    | nil => rfl
    | cons entry rest ih =>
        rw [List.filter_cons]
        split
        next => simpa [Sums.weigh] using ih
        next hzero =>
          have hvalue : entry.2.value = 0 := by
            rw [← Money.isZero_iff]
            simpa using hzero
          rw [ih]
          simp [Sums.weigh, hvalue]
  rw [typeSums_eq, hdropped, Sums.weigh_ofCharges, charges, List.map_flatMap]
  induction rows with
  | nil => rfl
  | cons row rest ih =>
      rw [List.flatMap_cons, List.sum_append, ih, List.map_cons, List.sum_cons, List.map_map,
        ← List.sum_map_mul_right]
      rfl

end Report

end Allowance.Statistics
