import Mathlib.Algebra.BigOperators.Group.List.Basic
import Mathlib.Algebra.Ring.Int.Defs
import Mathlib.Data.List.Forall2
import Mathlib.Data.List.Nodup
import Allowance.Ledger.Table

/-!
# Tables whose rows ascend

Rows are found, changed and removed by number. As long as the numbers of a table ascend and none of
them lies above the last one given out, a number names one row, and the next number is free.
-/

namespace Allowance.Table

variable {α : Type} {owner amount : α → Int}

/-- The sum of a column over the rows that belong to an owner. -/
def sumFor (rows : List α) (owner amount : α → Int) (id : Int) : Int :=
  ((rows.filter (owner · = id)).map amount).sum

theorem sumFor_append_of_ne (rows : List α) {row : α} {id : Int} (hne : owner row ≠ id) :
    sumFor (rows ++ [row]) owner amount id = sumFor rows owner amount id := by
  simp [sumFor, hne]

theorem sumFor_eq_zero {rows : List α} {id : Int} (hnone : ∀ row ∈ rows, owner row ≠ id) :
    sumFor rows owner amount id = 0 := by
  have hempty : rows.filter (owner · = id) = [] := by
    rw [List.filter_eq_nil_iff]
    simpa using hnone
  rw [sumFor, hempty]
  rfl

variable [Numbered α]

/-- The numbers of the rows of a table. -/
def numbers (rows : List α) : List Int :=
  rows.map Numbered.number

theorem mem_numbers {rows : List α} {id : Int} :
    id ∈ numbers rows ↔ ∃ row ∈ rows, Numbered.number row = id :=
  List.mem_map

theorem number_mem {rows : List α} {row : α} (hrow : row ∈ rows) :
    Numbered.number row ∈ numbers rows :=
  List.mem_map_of_mem hrow

@[simp] theorem numbers_append (rows more : List α) :
    numbers (rows ++ more) = numbers rows ++ numbers more :=
  List.map_append

/-! ## Looking up -/

theorem mem_of_find? {rows : List α} {id : Int} {row : α} (hrow : find? rows id = some row) :
    row ∈ rows ∧ Numbered.number row = id := by
  refine ⟨List.mem_of_find?_eq_some hrow, ?_⟩
  simpa using List.find?_some hrow

theorem mem_numbers_of_find? {rows : List α} {id : Int} {row : α}
    (hrow : find? rows id = some row) : id ∈ numbers rows := by
  obtain ⟨hmem, rfl⟩ := mem_of_find? hrow
  exact number_mem hmem

theorem find?_isSome_iff {rows : List α} {id : Int} :
    (∃ row, find? rows id = some row) ↔ id ∈ numbers rows := by
  constructor
  · rintro ⟨row, hrow⟩
    exact mem_numbers_of_find? hrow
  · intro hid
    obtain ⟨row, hmem, hnumber⟩ := mem_numbers.mp hid
    cases hfind : find? rows id with
    | some found => exact ⟨found, rfl⟩
    | none =>
        have hnone := List.find?_eq_none.mp hfind row hmem
        simp [hnumber] at hnone

omit [Numbered α] in
/-- A search for the only row that passes a test finds it. -/
theorem find?_eq_some_of_unique {rows : List α} {test : α → Bool} {row : α} (hrow : row ∈ rows)
    (htest : test row = true) (hunique : ∀ other ∈ rows, test other = true → other = row) :
    rows.find? test = some row := by
  obtain ⟨found, hfound⟩ := Option.isSome_iff_exists.mp
    (List.find?_isSome.mpr ⟨row, hrow, htest⟩)
  rw [hfound, hunique found (List.mem_of_find?_eq_some hfound) (List.find?_some hfound)]

/-! ## Changing and removing -/

theorem mem_modify {rows : List α} {id : Int} {change : α → α} {row : α} :
    row ∈ modify rows id change ↔
      ∃ old ∈ rows, (if Numbered.number old = id then change old else old) = row :=
  List.mem_map

theorem mem_erase {rows : List α} {id : Int} {row : α} :
    row ∈ erase rows id ↔ row ∈ rows ∧ Numbered.number row ≠ id := by
  simp [erase]

omit [Numbered α] in
theorem forall_mem_append_row {rows : List α} {row : α} {p : α → Prop}
    (hrows : ∀ row ∈ rows, p row) (hrow : p row) : ∀ other ∈ rows ++ [row], p other :=
  List.forall_mem_append.mpr ⟨hrows, List.forall_mem_singleton.mpr hrow⟩

theorem forall_mem_modify {rows : List α} {id : Int} {change : α → α} {p : α → Prop}
    (hrows : ∀ row ∈ rows, p row) (hchange : ∀ row ∈ rows, p row → p (change row)) :
    ∀ row ∈ modify rows id change, p row := by
  intro row hrow
  obtain ⟨old, hold, rfl⟩ := mem_modify.mp hrow
  split
  · exact hchange old hold (hrows old hold)
  · exact hrows old hold

theorem forall_mem_erase {rows : List α} {id : Int} {p : α → Prop} (hrows : ∀ row ∈ rows, p row) :
    ∀ row ∈ erase rows id, p row :=
  fun row hrow => hrows row (mem_erase.mp hrow).1

/-- A column that a change does not touch is the same afterwards. -/
theorem map_modify {β : Type} (column : α → β) {rows : List α} {id : Int} {change : α → α}
    (hkeep : ∀ row, column (change row) = column row) :
    (modify rows id change).map column = rows.map column := by
  rw [modify, List.map_map]
  apply List.map_congr_left
  intro row _
  simp only [Function.comp_apply]
  split
  · exact hkeep row
  · rfl

theorem numbers_modify {rows : List α} {id : Int} {change : α → α}
    (hkeep : ∀ row, Numbered.number (change row) = Numbered.number row) :
    numbers (modify rows id change) = numbers rows :=
  map_modify _ hkeep

/-- A table is as before if the change leaves the row of the number as it is. -/
theorem modify_eq_self {rows : List α} {id : Int} {change : α → α}
    (hsame : ∀ row ∈ rows, Numbered.number row = id → change row = row) :
    modify rows id change = rows := by
  rw [modify]
  conv_rhs => rw [← List.map_id rows]
  apply List.map_congr_left
  intro row hrow
  by_cases hid : Numbered.number row = id
  · simp [hid, hsame row hrow hid]
  · simp [hid]

/-- Two changes of one row are one change. -/
theorem modify_modify {rows : List α} {id : Int} {first second : α → α}
    (hkeep : ∀ row, Numbered.number (first row) = Numbered.number row) :
    modify (modify rows id first) id second = modify rows id (second ∘ first) := by
  rw [modify, modify, modify, List.map_map]
  apply List.map_congr_left
  intro row _
  by_cases hid : Numbered.number row = id
  · simp [hid, hkeep]
  · simp [hid]

/-- Two tables agree row by row, except that the row of one number may have been edited. -/
def EditsRow (id : Int) (edits : α → α → Prop) (rows after : List α) : Prop :=
  List.Forall₂ (fun old new => if Numbered.number old = id then edits old new else new = old)
    rows after

theorem editsRow_modify {rows : List α} {id : Int} {change : α → α} {edits : α → α → Prop}
    (hchange : ∀ row ∈ rows, Numbered.number row = id → edits row (change row)) :
    EditsRow id edits rows (modify rows id change) := by
  rw [EditsRow, modify, List.forall₂_map_right_iff, List.forall₂_same]
  intro row hrow
  split
  next hid => exact hchange row hrow hid
  next => rfl

/-- In tables that are related row by row a number is found at related rows. -/
theorem find?_of_forall₂ {relates : α → α → Prop} {rows after : List α} {id : Int} {old : α}
    (hrows : List.Forall₂ relates rows after)
    (hnumber : ∀ old new, relates old new → Numbered.number new = Numbered.number old)
    (hold : find? rows id = some old) : ∃ new, find? after id = some new ∧ relates old new := by
  induction hrows with
  | nil => cases hold
  | @cons first second rows after hfirst hrest ih =>
      simp only [find?, List.find?_cons, hnumber _ _ hfirst] at hold ih ⊢
      split at hold
      next => exact ⟨second, rfl, Option.some.inj hold ▸ hfirst⟩
      next => exact ih hold

/-! ## Ascending numbers -/

/-- The rows stand in ascending order of numbers that have been given out. -/
structure Ascending (rows : List α) (last : Int) : Prop where
  started : 0 ≤ last
  sorted : (numbers rows).Pairwise (· < ·)
  positive : ∀ id ∈ numbers rows, 0 < id
  given : ∀ id ∈ numbers rows, id ≤ last

namespace Ascending

variable {rows : List α} {last : Int}

theorem nil : Ascending ([] : List α) 0 :=
  ⟨Int.le_refl 0, List.Pairwise.nil, by simp [numbers], by simp [numbers]⟩

/-- Two rows of one number are the same row. -/
theorem eq_of_number (h : Ascending rows last) {first second : α} (hfirst : first ∈ rows)
    (hsecond : second ∈ rows) (hnumber : Numbered.number first = Numbered.number second) :
    first = second :=
  List.inj_on_of_nodup_map (h.sorted.imp Int.ne_of_lt) hfirst hsecond hnumber

theorem find?_number (h : Ascending rows last) {row : α} (hrow : row ∈ rows) :
    find? rows (Numbered.number row) = some row := by
  obtain ⟨found, hfound⟩ := find?_isSome_iff.mpr (number_mem hrow)
  obtain ⟨hmem, hnumber⟩ := mem_of_find? hfound
  rw [hfound, h.eq_of_number hmem hrow hnumber]

theorem find?_eq_some_iff (h : Ascending rows last) {id : Int} {row : α} :
    find? rows id = some row ↔ row ∈ rows ∧ Numbered.number row = id := by
  constructor
  · exact mem_of_find?
  · rintro ⟨hrow, rfl⟩
    exact h.find?_number hrow

/-- The row that a number is found at is the only row of that number. -/
theorem eq_of_find? (h : Ascending rows last) {id : Int} {row other : α}
    (hrow : find? rows id = some row) (hother : other ∈ rows)
    (hnumber : Numbered.number other = id) : other = row := by
  obtain ⟨hmem, hid⟩ := mem_of_find? hrow
  exact h.eq_of_number hother hmem (hnumber.trans hid.symm)

theorem next_free (h : Ascending rows last) : last + 1 ∉ numbers rows := by
  intro hmem
  have := h.given _ hmem
  omega

/-- Rows numbered from the next number on can be appended. -/
theorem append (h : Ascending rows last) {more : List α} {count : Nat}
    (hmore : numbers more = (List.range count).map fun i : Nat => last + 1 + (i : Int)) :
    Ascending (rows ++ more) (last + count) := by
  have hlast := h.started
  refine ⟨by omega, ?_, ?_, ?_⟩
  · rw [numbers_append, hmore, List.pairwise_append]
    refine ⟨h.sorted, ?_, ?_⟩
    · exact List.pairwise_lt_range.map _ fun i j hij => by omega
    · intro a ha b hb
      obtain ⟨i, _, rfl⟩ := List.mem_map.mp hb
      have := h.given a ha
      omega
  · intro id hid
    rw [numbers_append, hmore] at hid
    rcases List.mem_append.mp hid with hold | hnew
    · exact h.positive id hold
    · obtain ⟨i, _, rfl⟩ := List.mem_map.mp hnew
      omega
  · intro id hid
    rw [numbers_append, hmore] at hid
    rcases List.mem_append.mp hid with hold | hnew
    · have := h.given id hold
      omega
    · obtain ⟨i, hi, rfl⟩ := List.mem_map.mp hnew
      have := List.mem_range.mp hi
      omega

theorem append_next (h : Ascending rows last) {row : α}
    (hrow : Numbered.number row = last + 1) : Ascending (rows ++ [row]) (last + 1) := by
  have hmore : numbers [row] = (List.range 1).map fun i : Nat => last + 1 + (i : Int) := by
    simp [numbers, hrow]
  simpa using h.append hmore

/-- The row that was given the next number is found under it. -/
theorem find?_append_next (h : Ascending rows last) {row : α}
    (hrow : Numbered.number row = last + 1) : find? (rows ++ [row]) (last + 1) = some row := by
  rw [← hrow]
  exact (h.append_next hrow).find?_number (List.mem_append_right _ List.mem_cons_self)

/-- Removing the row that was given the next number leaves the rows that were there. -/
theorem erase_append_next (h : Ascending rows last) {row : α}
    (hrow : Numbered.number row = last + 1) : Table.erase (rows ++ [row]) (last + 1) = rows := by
  have hkept : Table.erase rows (last + 1) = rows := by
    rw [Table.erase, List.filter_eq_self]
    intro other hother
    rw [bne_iff_ne]
    exact fun heq => h.next_free (heq ▸ number_mem hother)
  have hremoved : Table.erase [row] (last + 1) = [] := by
    simp [Table.erase, hrow]
  calc
    Table.erase (rows ++ [row]) (last + 1) =
        Table.erase rows (last + 1) ++ Table.erase [row] (last + 1) := List.filter_append ..
    _ = rows := by rw [hkept, hremoved, List.append_nil]

/-- Numbers that have been given out stay so when more are. -/
theorem of_le (h : Ascending rows last) {later : Int} (hle : last ≤ later) :
    Ascending rows later :=
  ⟨Int.le_trans h.started hle, h.sorted, h.positive,
    fun id hid => Int.le_trans (h.given id hid) hle⟩

theorem of_numbers_eq (h : Ascending rows last) {others : List α}
    (hnumbers : numbers others = numbers rows) : Ascending others last :=
  ⟨h.started, hnumbers ▸ h.sorted, hnumbers ▸ h.positive, hnumbers ▸ h.given⟩

theorem modify (h : Ascending rows last) {id : Int} {change : α → α}
    (hkeep : ∀ row, Numbered.number (change row) = Numbered.number row) :
    Ascending (Table.modify rows id change) last :=
  h.of_numbers_eq (numbers_modify hkeep)

/-- A changed row is found under its number. -/
theorem find?_modify (h : Ascending rows last) {id : Int} {change : α → α} {row : α}
    (hrow : find? rows id = some row)
    (hkeep : ∀ row, Numbered.number (change row) = Numbered.number row) :
    find? (Table.modify rows id change) id = some (change row) := by
  obtain ⟨hmem, hid⟩ := mem_of_find? hrow
  rw [(h.modify hkeep).find?_eq_some_iff]
  exact ⟨mem_modify.mpr ⟨row, hmem, if_pos hid⟩, (hkeep row).trans hid⟩

/-- A second change that takes back the first leaves the table as it was. -/
theorem modify_back (h : Ascending rows last) {id : Int} {row : α}
    (hrow : find? rows id = some row) (change back : α → α)
    (hkeep : ∀ row, Numbered.number (change row) = Numbered.number row)
    (hback : back (change row) = row) :
    Table.modify (Table.modify rows id change) id back = rows := by
  rw [modify_modify hkeep]
  apply modify_eq_self
  intro other hother hid
  rw [h.eq_of_find? hrow hother hid]
  exact hback

theorem erase (h : Ascending rows last) (id : Int) : Ascending (Table.erase rows id) last := by
  have hsub : (numbers (Table.erase rows id)).Sublist (numbers rows) :=
    List.filter_sublist.map Numbered.number
  exact ⟨h.started, h.sorted.sublist hsub, fun i hi => h.positive i (hsub.subset hi),
    fun i hi => h.given i (hsub.subset hi)⟩

end Ascending

/-! ## Sums after a change -/

/-- A change that keeps every owner, and every amount of one owner, keeps the sum of that owner. -/
theorem sumFor_modify {rows : List α} {number id : Int} {change : α → α}
    (howner : ∀ row, owner (change row) = owner row)
    (hamount : ∀ row ∈ rows, Numbered.number row = number → owner row = id →
      amount (change row) = amount row) :
    sumFor (modify rows number change) owner amount id = sumFor rows owner amount id := by
  unfold sumFor modify
  congr 1
  induction rows with
  | nil => rfl
  | cons row rest ih =>
      have hrest := ih fun other hother => hamount other (List.mem_cons_of_mem row hother)
      by_cases hnumber : Numbered.number row = number
      · by_cases hid : owner row = id
        · simp only [List.map_cons, hnumber, if_true, List.filter_cons, howner, hid, decide_true,
            hrest, hamount row List.mem_cons_self hnumber hid]
        · simpa [hnumber, howner, hid] using hrest
      · by_cases hid : owner row = id
        · simpa [hnumber, hid] using hrest
        · simpa [hnumber, hid] using hrest

/-- Removing a row that belongs to another owner keeps the sum of an owner. -/
theorem sumFor_erase {rows : List α} {number id : Int}
    (howner : ∀ row ∈ rows, Numbered.number row = number → owner row ≠ id) :
    sumFor (erase rows number) owner amount id = sumFor rows owner amount id := by
  unfold sumFor erase
  rw [List.filter_filter]
  congr 2
  apply List.filter_congr
  intro row hrow
  by_cases hnumber : Numbered.number row = number
  · simp [howner row hrow hnumber]
  · simp [hnumber]

namespace Ascending

variable {rows : List α} {last number id : Int} {row : α}

/-- Editing the row of a number keeps the sum of an owner, unless it is the owner of that row and
the amount changes. -/
theorem sumFor_edit (h : Ascending rows last) (hrow : find? rows number = some row)
    {change : α → α} (howner : ∀ row, owner (change row) = owner row)
    (hamount : owner row = id → amount (change row) = amount row) :
    sumFor (Table.modify rows number change) owner amount id = sumFor rows owner amount id := by
  apply sumFor_modify howner
  intro other hother hnumber hid
  obtain rfl := h.eq_of_find? hrow hother hnumber
  exact hamount hid

theorem sumFor_remove (h : Ascending rows last) (hrow : find? rows number = some row)
    (howner : owner row ≠ id) :
    sumFor (Table.erase rows number) owner amount id = sumFor rows owner amount id := by
  apply sumFor_erase
  intro other hother hnumber
  obtain rfl := h.eq_of_find? hrow hother hnumber
  exact howner

end Ascending

end Allowance.Table
