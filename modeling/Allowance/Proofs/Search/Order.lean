import Allowance.Proofs.Money.Value
import Allowance.Search.Query

/-!
# The order of found spends

Each key compares spends by a linear order, the cost by its value at any precision. Taken one after
another the keys are a total preorder, which is the order that the criteria ask for, and the last of
them, the number of the spend, leaves no two spends of a list undecided. So the result of a search
does not depend on the order that the spends are given in.
-/

namespace Allowance.Search

open Std (TransCmp OrientedCmp TransOrd)

/-! ## Keys -/

theorem compare_cost (a b : SpendRecord) :
    Field.compare a b .cost = compareOfLessAndEq a.cost.value b.cost.value := by
  simp only [Field.compare, compareOfLessAndEq, Money.same_iff, Money.less_iff]
  split
  next heq => rw [if_neg (by rw [heq]; exact lt_irrefl _)]
  next => rfl

instance (field : Field) : TransCmp (Field.compare · · field) := by
  cases field with
  | id => exact inferInstanceAs (TransCmp (compareOn SpendRecord.id))
  | year => exact inferInstanceAs (TransCmp (compareOn SpendRecord.year))
  | month => exact inferInstanceAs (TransCmp (compareOn SpendRecord.month))
  | day => exact inferInstanceAs (TransCmp (compareOn SpendRecord.day))
  | title => exact inferInstanceAs (TransCmp (compareOn SpendRecord.title))
  | notes => exact inferInstanceAs (TransCmp (compareOn SpendRecord.notes))
  | typeId => exact inferInstanceAs (TransCmp (compareOn SpendRecord.typeId))
  | cost =>
      have hvalues : TransCmp fun x y : ℚ => compareOfLessAndEq x y :=
        TransOrd.compareOfLessAndEq_of_lt_trans_of_lt_iff lt_trans fun x y =>
          ⟨fun h => ⟨lt_asymm h, ne_of_lt h⟩, fun h => lt_of_le_of_ne (not_lt.mp h.1) h.2⟩
      have hcompare : (Field.compare · · .cost) =
          fun a b : SpendRecord => compareOfLessAndEq a.cost.value b.cost.value :=
        funext fun a => funext (compare_cost a)
      rw [hcompare]
      exact { eq_swap := hvalues.eq_swap, isLE_trans := hvalues.isLE_trans }

instance (key : OrderBy) : TransCmp (OrderBy.compare · · key) := by
  obtain ⟨field, descending⟩ := key
  cases descending with
  | false => exact inferInstanceAs (TransCmp (Field.compare · · field))
  | true =>
      have horiented : OrientedCmp (Field.compare · · field) := inferInstance
      have hswap : (OrderBy.compare · · ⟨field, true⟩) = fun a b => Field.compare b a field :=
        funext fun _ => funext fun _ => horiented.eq_swap.symm
      rw [hswap]
      exact inferInstanceAs (TransCmp fun a b => Field.compare b a field)

/-! ## Keys one after another -/

/-- How two spends compare by a list of keys. -/
def compareBy (keys : List OrderBy) (a b : SpendRecord) : Ordering :=
  keys.foldl (fun found key => found.then (key.compare a b)) .eq

theorem foldl_then (keys : List OrderBy) (a b : SpendRecord) (found : Ordering) :
    keys.foldl (fun found key => found.then (key.compare a b)) found =
      found.then (compareBy keys a b) := by
  induction keys generalizing found with
  | nil => simp [compareBy]
  | cons key rest ih =>
      rw [compareBy, List.foldl_cons, List.foldl_cons, ih, ih, Ordering.eq_then,
        Ordering.then_assoc]

theorem compareBy_cons (key : OrderBy) (rest : List OrderBy) (a b : SpendRecord) :
    compareBy (key :: rest) a b = (key.compare a b).then (compareBy rest a b) := by
  rw [compareBy, List.foldl_cons, foldl_then, Ordering.eq_then]

instance (keys : List OrderBy) : TransCmp (compareBy keys) := by
  induction keys with
  | nil => exact { eq_swap := rfl, isLE_trans := fun _ _ => rfl }
  | cons key rest ih =>
      have hlex : compareBy (key :: rest) =
          compareLex (OrderBy.compare · · key) (compareBy rest) :=
        funext fun a => funext (compareBy_cons key rest a)
      rw [hlex]
      infer_instance

theorem compareBy_eq_eq {keys : List OrderBy} {a b : SpendRecord} :
    compareBy keys a b = .eq ↔ ∀ key ∈ keys, key.compare a b = .eq := by
  induction keys with
  | nil => simp [compareBy]
  | cons key rest ih => rw [compareBy_cons, Ordering.then_eq_eq, ih, List.forall_mem_cons]

instance (query : Query) : TransCmp query.compare :=
  inferInstanceAs (TransCmp (compareBy query.orderBy))

/-! ## Results -/

theorem Query.apply_eq (query : Query) (rows : List SpendRecord) :
    query.apply rows =
      (rows.filter query.accepts).mergeSort fun a b => (query.compare a b).isLE := by
  simp only [Ordering.isLE_eq_not_beq_gt]
  rfl

/-- In a result no spend comes before one that it follows under the keys. -/
theorem Query.pairwise_apply (query : Query) (rows : List SpendRecord) :
    (query.apply rows).Pairwise fun a b => (query.compare a b).isLE := by
  rw [query.apply_eq]
  apply List.pairwise_mergeSort
  · intro a b c hab hbc
    exact TransCmp.isLE_trans hab hbc
  · intro a b
    have horiented : OrientedCmp query.compare := inferInstance
    rw [horiented.eq_swap (a := b)]
    cases query.compare a b <;> decide

theorem Query.apply_subset (query : Query) (rows : List SpendRecord) : query.apply rows ⊆ rows := by
  intro row hrow
  exact (List.mem_filter.mp (List.mem_mergeSort.mp hrow)).1

/-- Spends that no key tells apart have one number. -/
theorem Criteria.id_eq_of_compare {criteria : Criteria} {a b : SpendRecord}
    (h : criteria.query.compare a b = .eq) : a.id = b.id := by
  have hkey := compareBy_eq_eq.mp h ⟨.id, false⟩ (by simp [Criteria.query])
  exact Std.LawfulEqOrd.eq_of_compare hkey

/-- The order in which spends are given does not matter, as long as their numbers are distinct. -/
theorem Criteria.apply_perm (criteria : Criteria) {rows others : List SpendRecord}
    (hperm : rows.Perm others) (hnodup : (rows.map (·.id)).Nodup) :
    criteria.query.apply rows = criteria.query.apply others := by
  have hfound : (criteria.query.apply rows).Perm (criteria.query.apply others) :=
    (List.mergeSort_perm _ _).trans
      ((hperm.filter _).trans (List.mergeSort_perm _ _).symm)
  refine hfound.eq_of_pairwise ?_ (criteria.query.pairwise_apply rows)
    (criteria.query.pairwise_apply others)
  intro a b ha hb hab hba
  have hid := Criteria.id_eq_of_compare (OrientedCmp.isLE_antisymm hab hba)
  exact List.inj_on_of_nodup_map hnodup (criteria.query.apply_subset rows ha)
    (hperm.mem_iff.mpr (criteria.query.apply_subset others hb)) hid

/-! ## The order that criteria ask for -/

/-- Whether a spend comes before another by what it is sorted by, in ascending order: by its place
in the calendar, by the code points of its title or by the value of its cost. -/
def SortKey.Less (a b : SpendRecord) : SortKey → Prop
  | date =>
      a.year < b.year ∨ a.year = b.year ∧ (a.month < b.month ∨ a.month = b.month ∧ a.day < b.day)
  | title => a.title < b.title
  | cost => a.cost.value < b.cost.value

/-- Whether a spend comes before another by what criteria sort by, in the direction they ask for. -/
def Criteria.PrecedesByKey (criteria : Criteria) (a b : SpendRecord) : Prop :=
  if criteria.descending then criteria.sortKey.Less b a else criteria.sortKey.Less a b

/-- Whether criteria ask for a spend before another. Between spends that the sort key does not tell
apart the smaller number comes first in either direction. -/
def Criteria.Precedes (criteria : Criteria) (a b : SpendRecord) : Prop :=
  criteria.PrecedesByKey a b ∨ ¬ criteria.PrecedesByKey b a ∧ a.id < b.id

theorem compareBy_append (keys more : List OrderBy) (a b : SpendRecord) :
    compareBy (keys ++ more) a b = (compareBy keys a b).then (compareBy more a b) := by
  rw [compareBy, List.foldl_append, foldl_then]
  rfl

theorem compareBy_ascending_eq_lt (key : SortKey) (a b : SpendRecord) :
    compareBy (key.fields.map (⟨·, false⟩)) a b = .lt ↔ key.Less a b := by
  cases key with
  | date =>
      have heq (x y : Int) : compareOfLessAndEq x y = .eq ↔ x = y :=
        compareOfLessAndEq_eq_eq Int.le_refl Int.not_le
      simp only [SortKey.fields, SortKey.Less, List.map_cons, List.map_nil, compareBy_cons,
        OrderBy.compare, Field.compare, Bool.false_eq_true, if_false, Ordering.then_eq_lt,
        compareOfLessAndEq_eq_lt, heq]
      simp [compareBy]
  | title =>
      simp [SortKey.fields, SortKey.Less, compareBy, OrderBy.compare, Field.compare,
        compareOfLessAndEq_eq_lt]
  | cost =>
      simp [SortKey.fields, SortKey.Less, compareBy, OrderBy.compare,
        compare_cost, compareOfLessAndEq_eq_lt]

theorem compareBy_descending (fields : List Field) (a b : SpendRecord) :
    compareBy (fields.map (⟨·, true⟩)) a b = compareBy (fields.map (⟨·, false⟩)) b a := by
  induction fields with
  | nil => rfl
  | cons field rest ih =>
      have horiented : OrientedCmp (Field.compare · · field) := inferInstance
      rw [List.map_cons, List.map_cons, compareBy_cons, compareBy_cons, ih]
      congr 1
      exact horiented.eq_swap.symm

theorem Criteria.compareBy_fields_eq_lt (criteria : Criteria) (a b : SpendRecord) :
    compareBy (criteria.sortKey.fields.map (⟨·, criteria.descending⟩)) a b = .lt ↔
      criteria.PrecedesByKey a b := by
  unfold Criteria.PrecedesByKey
  cases criteria.descending with
  | false => exact compareBy_ascending_eq_lt _ a b
  | true => rw [compareBy_descending]; exact compareBy_ascending_eq_lt _ b a

/-- The keys of a query tell which of two spends its criteria ask for first. -/
theorem Criteria.compare_eq_lt {criteria : Criteria} {a b : SpendRecord} :
    criteria.query.compare a b = .lt ↔ criteria.Precedes a b := by
  have hsplit : criteria.query.compare a b =
      (compareBy (criteria.sortKey.fields.map (⟨·, criteria.descending⟩)) a b).then
        (compareBy [⟨.id, false⟩] a b) :=
    compareBy_append _ _ a b
  have hid : compareBy [⟨.id, false⟩] a b = .lt ↔ a.id < b.id := by
    simp [compareBy, OrderBy.compare, Field.compare, compareOfLessAndEq_eq_lt]
  have hbefore := criteria.compareBy_fields_eq_lt a b
  have hafter := criteria.compareBy_fields_eq_lt b a
  rw [← OrientedCmp.gt_iff_lt] at hafter
  rw [hsplit, Ordering.then_eq_lt, hid, Criteria.Precedes, ← hbefore, ← hafter]
  cases compareBy (criteria.sortKey.fields.map (⟨·, criteria.descending⟩)) a b <;> simp

/-! ## Sorting -/

theorem Query.apply_apply (query : Query) (rows : List SpendRecord) :
    query.apply (query.apply rows) = query.apply rows := by
  have haccepted : (query.apply rows).filter query.accepts = query.apply rows := by
    rw [List.filter_eq_self]
    intro row hrow
    exact (List.mem_filter.mp (List.mem_mergeSort.mp hrow)).2
  conv_lhs => rw [query.apply_eq (query.apply rows), haccepted]
  exact List.mergeSort_of_pairwise (query.pairwise_apply rows)

/-- What a search finds of a list are the spends that it accepts, each as often as it is there, and
none after one that is asked for later. To search in what was found changes nothing, and spends with
numbers of their own are found in one order, whatever the order that they are given in. -/
theorem Criteria.apply_sorts (criteria : Criteria) (rows : List SpendRecord) :
    (criteria.query.apply rows).Perm (rows.filter criteria.query.accepts) ∧
      (criteria.query.apply rows).Pairwise (fun a b => ¬ criteria.Precedes b a) ∧
      criteria.query.apply (criteria.query.apply rows) = criteria.query.apply rows ∧
      ((rows.map (·.id)).Nodup → ∀ others, others.Perm rows →
        criteria.query.apply others = criteria.query.apply rows) := by
  refine ⟨List.mergeSort_perm _ _, ?_, criteria.query.apply_apply rows, ?_⟩
  · refine (criteria.query.pairwise_apply rows).imp ?_
    intro a b hle
    rw [← Criteria.compare_eq_lt, ← OrientedCmp.gt_iff_lt]
    rintro hgt
    rw [hgt] at hle
    cases hle
  · intro hnodup others hperm
    exact (criteria.apply_perm hperm.symm hnodup).symm

/-- Two costs of one value at different precisions are left to the numbers of the spends, also where
the costliest spends come first. -/
theorem apply_sorts_equalCosts :
    let refund : SpendRecord := ⟨1, 2025, 1, 2, "Refund", ⟨-2, 0⟩, 0, ""⟩
    let bread : SpendRecord := ⟨3, 2025, 1, 9, "Bread", ⟨500, 2⟩, 0, ""⟩
    let rent : SpendRecord := ⟨5, 2024, 12, 31, "Rent", ⟨90000, 2⟩, 0, ""⟩
    let tea : SpendRecord := ⟨7, 2025, 1, 2, "Tea", ⟨50, 1⟩, 0, ""⟩
    let criteria := { Criteria.all with sortKey := .cost, descending := true }
    ([tea, refund, rent, bread].map (·.id)).Nodup ∧
      criteria.query.apply [tea, refund, rent, bread] = [rent, bread, tea, refund] := by
  intro refund bread rent tea criteria
  have hnodup : ([tea, refund, rent, bread].map (·.id)).Nodup := by decide
  have hperm : [rent, bread, tea, refund].Perm [tea, refund, rent, bread] := by decide
  have hsorted : criteria.query.apply [rent, bread, tea, refund] = [rent, bread, tea, refund] := by
    apply List.mergeSort_of_pairwise
    decide +kernel
  obtain ⟨_, _, _, hsame⟩ := Criteria.apply_sorts criteria [tea, refund, rent, bread]
  exact ⟨hnodup, (hsame hnodup _ hperm).symm.trans hsorted⟩

end Allowance.Search
