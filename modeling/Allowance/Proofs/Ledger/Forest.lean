import Allowance.Proofs.Ledger.Integrity
import Allowance.Proofs.SpendType.Forest

/-!
# The spend types of a ledger

The spend types of a ledger are a forest in every state. A new type has a number that no other type
refers to, a type is moved only under a parent whose walk avoids it, and a removed type has no
children.
-/

namespace Allowance.Ledger

open SpendType

variable {types : List SpendType} {last : Int}

/-- As long as numbers are unique, looking up a parent is finding a row. -/
theorem parentOf?_eq_some (h : Table.Ascending types last) {id parent : Int} :
    parentOf? types id = some parent ↔ ∃ type ∈ types, type.id = id ∧ type.parent = parent := by
  rw [parentOf?, Option.map_eq_some_iff]
  constructor
  · rintro ⟨type, hfind, hparent⟩
    refine ⟨type, ?_, ?_, hparent⟩
    · exact List.mem_reverse.mp (List.mem_of_find?_eq_some hfind)
    · simpa using List.find?_some hfind
  · rintro ⟨type, htype, hid, hparent⟩
    refine ⟨type, ?_, hparent⟩
    cases hfind : SpendType.find? types id with
    | none =>
        have hnone := List.find?_eq_none.mp hfind type (List.mem_reverse.mpr htype)
        simp [hid] at hnone
    | some found =>
        have hmem := List.mem_reverse.mp (List.mem_of_find?_eq_some hfind)
        have hnumber : found.id = id := by simpa using List.find?_some hfind
        rw [h.eq_of_number hmem htype (hnumber.trans hid.symm)]

theorem parentOf?_noType (h : Table.Ascending types last) : parentOf? types noType = none := by
  rw [Option.eq_none_iff_forall_ne_some]
  intro parent hparent
  obtain ⟨type, htype, hid, _⟩ := (parentOf?_eq_some h).mp hparent
  have hpositive := h.positive _ (Table.number_mem htype)
  rw [number_spendType, hid] at hpositive
  exact absurd hpositive (by decide)

variable {l : Ledger}

theorem rooted_of_knowsType (hforest : IsForest l.types) {id : Int} (hid : l.KnowsType id) :
    Rooted l.types id := by
  rcases hid with rfl | hmem
  · exact .root
  · obtain ⟨type, htype, rfl⟩ := Table.mem_numbers.mp hmem
    exact hforest type htype

/-! ## Parents after a change -/

theorem parentOf?_insertType (h : Integrity l) {type : NewSpendType}
    (hparent : l.KnowsType type.parent) {id parent : Int}
    (hold : parentOf? l.types id = some parent) :
    parentOf? (l.insertType type).types id = some parent := by
  obtain ⟨row, hrow, hrest⟩ := (parentOf?_eq_some h.types).mp hold
  exact (parentOf?_eq_some (h.insertType hparent).types).mpr
    ⟨row, List.mem_append_left _ hrow, hrest⟩

theorem parentOf?_insertType_new (h : Integrity l) {type : NewSpendType}
    (hparent : l.KnowsType type.parent) :
    parentOf? (l.insertType type).types (l.counters.spendType + 1) = some type.parent :=
  (parentOf?_eq_some (h.insertType hparent).types).mpr
    ⟨⟨l.counters.spendType + 1, Text.trim type.name, type.parent⟩,
      List.mem_append_right _ List.mem_cons_self, rfl, rfl⟩

theorem ascending_updateType (h : Integrity l) (edit : SpendTypeEdit) :
    Table.Ascending (l.updateType edit).types l.counters.spendType :=
  h.types.modify fun _ => rfl

/-- The parent of the edited type is the given one, or else the one that it had. -/
theorem parentOf?_updateType_self (h : Integrity l) {edit : SpendTypeEdit} {type : SpendType}
    (htype : Table.find? l.types edit.id = some type) :
    parentOf? (l.updateType edit).types edit.id = some (edit.parent.getD type.parent) := by
  obtain ⟨hmem, hid⟩ := Table.mem_of_find? htype
  refine (parentOf?_eq_some (ascending_updateType h edit)).mpr
    ⟨editedType edit type, Table.mem_modify.mpr ⟨type, hmem, ?_⟩, hid, rfl⟩
  rw [if_pos hid]

theorem parentOf?_updateType_of_ne (h : Integrity l) {edit : SpendTypeEdit} {id parent : Int}
    (hne : id ≠ edit.id) (hold : parentOf? l.types id = some parent) :
    parentOf? (l.updateType edit).types id = some parent := by
  obtain ⟨row, hrow, hrest⟩ := (parentOf?_eq_some h.types).mp hold
  refine (parentOf?_eq_some (ascending_updateType h edit)).mpr
    ⟨row, Table.mem_modify.mpr ⟨row, hrow, ?_⟩, hrest⟩
  exact if_neg fun hsubject => hne (hrest.1.symm.trans hsubject)

/-- An edit that gives no parent keeps every parent. -/
theorem parentOf?_updateType_of_none (h : Integrity l) {edit : SpendTypeEdit} {type : SpendType}
    (htype : Table.find? l.types edit.id = some type) (hedit : edit.parent = none)
    {id parent : Int} (hold : parentOf? l.types id = some parent) :
    parentOf? (l.updateType edit).types id = some parent := by
  by_cases hid : id = edit.id
  · obtain ⟨row, hrow, hrowId, rfl⟩ := (parentOf?_eq_some h.types).mp hold
    obtain rfl := h.types.eq_of_find? htype hrow (hrowId.trans hid)
    have hedited := parentOf?_updateType_self h htype
    rw [hedit, Option.getD_none] at hedited
    exact hid ▸ hedited
  · exact parentOf?_updateType_of_ne h hid hold

theorem parentOf?_eraseType (h : Integrity l) {removed : Int} (hunused : l.usage? removed = none)
    {id parent : Int} (hne : id ≠ removed) (hold : parentOf? l.types id = some parent) :
    parentOf? (l.eraseType removed).types id = some parent := by
  obtain ⟨row, hrow, hid, hparent⟩ := (parentOf?_eq_some h.types).mp hold
  refine (parentOf?_eq_some (h.eraseType hunused).types).mpr
    ⟨row, Table.mem_erase.mpr ⟨hrow, ?_⟩, hid, hparent⟩
  exact fun hremoved => hne (hid.symm.trans hremoved)

/-- An edit keeps the numbers of the types, so that each of them is there before and after it. -/
theorem exists_of_mem_updateType {edit : SpendTypeEdit} {type : SpendType}
    (htype : type ∈ (l.updateType edit).types) : ∃ old ∈ l.types, old.id = type.id := by
  obtain ⟨old, hold, rfl⟩ := Table.mem_modify.mp htype
  refine ⟨old, hold, ?_⟩
  split <;> rfl

theorem exists_mem_updateType (edit : SpendTypeEdit) {type : SpendType} (htype : type ∈ l.types) :
    ∃ edited ∈ (l.updateType edit).types, edited.id = type.id := by
  refine ⟨_, Table.mem_modify.mpr ⟨type, htype, rfl⟩, ?_⟩
  split <;> rfl

/-! ## Changes of the spend types -/

theorem isForest_insertType (h : Integrity l) (hforest : IsForest l.types) {type : NewSpendType}
    (hparent : l.KnowsType type.parent) : IsForest (l.insertType type).types := by
  have hkept (id parent : Int) (hold : parentOf? l.types id = some parent) :
      parentOf? (l.insertType type).types id = some parent :=
    parentOf?_insertType h hparent hold
  intro row hrow
  rcases List.mem_append.mp hrow with hold | hadded
  · exact (hforest row hold).mono hkept
  · obtain rfl := List.mem_singleton.mp hadded
    exact .child (parentOf?_insertType_new h hparent)
      ((rooted_of_knowsType hforest hparent).mono hkept)

theorem isForest_updateType (h : Integrity l) (hforest : IsForest l.types) {edit : SpendTypeEdit}
    {type : SpendType} (htype : Table.find? l.types edit.id = some type)
    (hparent : ∀ parent, edit.parent = some parent → l.requireParent edit.id parent = .ok ()) :
    IsForest (l.updateType edit).types := by
  have hrooted (id : Int) (hold : Rooted l.types id) : Rooted (l.updateType edit).types id := by
    cases hedit : edit.parent with
    | none => exact hold.mono fun _ _ => parentOf?_updateType_of_none h htype hedit
    | some parent =>
        have hkept (id parent : Int) (hne : id ≠ edit.id)
            (hold : parentOf? l.types id = some parent) :
            parentOf? (l.updateType edit).types id = some parent :=
          parentOf?_updateType_of_ne h hne hold
        have hmoved := parentOf?_updateType_self h htype
        rw [hedit, Option.getD_some] at hmoved
        have hcycle := (requireParent_eq_ok.mp (hparent parent hedit)).2
        exact hold.move hkept hmoved (rooted_of_hasCycle hkept hcycle)
  intro row hrow
  obtain ⟨old, hold, hid⟩ := exists_of_mem_updateType hrow
  exact hid ▸ hrooted old.id (hforest old hold)

theorem isForest_eraseType (h : Integrity l) (hforest : IsForest l.types) {id : Int}
    (hunused : l.usage? id = none) : IsForest (l.eraseType id).types := by
  have hchildless := (Integrity.usage?_eq_none.mp hunused).2.2
  have hrooted (other : Int) (hold : Rooted l.types other) (hne : other ≠ id) :
      Rooted (l.eraseType id).types other := by
    -- No type has the removed one as its parent, so that no walk comes through it.
    induction hold with
    | root => exact .root
    | @child other parent hlookup _ ih =>
        obtain ⟨row, hrow, _, rfl⟩ := (parentOf?_eq_some h.types).mp hlookup
        exact .child (parentOf?_eraseType h hunused hne hlookup) (ih (hchildless row hrow))
  intro row hrow
  obtain ⟨hmem, hne⟩ := Table.mem_erase.mp hrow
  exact hrooted row.id (hforest row hmem) hne

/-! ## Runs -/

theorem isForest_revision (h : Integrity l) (hforest : IsForest l.types) {middle : Ledger}
    {target : Option Int} (hrevision : Revision l middle target) : IsForest middle.types := by
  cases hrevision with
  | typeAdded type hvalid hparent => exact isForest_insertType h hforest hparent
  | typeEdited edit type hvalid htype hparent => exact isForest_updateType h hforest htype hparent
  | typeRemoved id type htype hunused => exact isForest_eraseType h hforest hunused
  | _ => exact hforest

theorem isForest_handle (h : Integrity l) (hforest : IsForest l.types) {α : Type}
    {request : Request α} {reply : Reply α} (hreply : l.handle request = .ok reply) :
    IsForest reply.ledger.types := by
  obtain ⟨middle, target, hrevision, hfinal⟩ := h.exists_revision hreply
  have hmiddle := isForest_revision h hforest hrevision
  rcases hfinal with hsame | ⟨id, f, hwritten⟩
  · exact hsame ▸ hmiddle
  · exact hwritten ▸ hmiddle

theorem isForest_run (currency : Currency) (operations : List Operation) :
    Integrity ((Ledger.empty currency).run operations) ∧
      IsForest ((Ledger.empty currency).run operations).types := by
  refine run_invariant (fun l => Integrity l ∧ IsForest l.types)
    (fun _ _ _ _ hl hreply => ⟨hl.1.handle hreply, isForest_handle hl.1 hl.2 hreply⟩)
    ⟨.empty currency, ?_⟩ operations
  intro type htype
  cases htype

/-- After every run of a new ledger, following parents from a spend type comes to a type without a
parent, and following parents from anywhere never comes back. -/
theorem ascend_run (currency : Currency) (operations : List Operation) :
    let types := ((Ledger.empty currency).run operations).types
    (∀ type ∈ types, ∃ steps, ascend types steps type.id = some noType) ∧
      ∀ id steps, ascend types (steps + 1) id ≠ some id := by
  intro types
  obtain ⟨hintegrity, hforest⟩ := isForest_run currency operations
  refine ⟨fun type htype => (hforest type htype).ascend_eq, ?_⟩
  apply hforest.ascend_ne (parentOf?_noType hintegrity.types)
  intro id parent hparent
  obtain ⟨type, htype, hid, _⟩ := (parentOf?_eq_some hintegrity.types).mp hparent
  exact ⟨type, htype, hid⟩

/-- Three types below each other, of which the first is not let under the last, and the middle one
moves to the top. -/
def movedType : List Operation :=
  [⟨.addSpendType ⟨"Food", 0⟩⟩, ⟨.addSpendType ⟨"Fruit", 1⟩⟩, ⟨.addSpendType ⟨"Apples", 2⟩⟩,
    ⟨.editSpendType ⟨1, none, some 3⟩⟩, ⟨.editSpendType ⟨2, none, some 0⟩⟩]

theorem ascend_movedType :
    let types := ((Ledger.empty .gbp).run movedType).types
    types = [⟨1, "Food", 0⟩, ⟨2, "Fruit", 0⟩, ⟨3, "Apples", 2⟩] ∧
      (∃ steps, ascend types steps 3 = some noType) ∧ ascend types 2 3 ≠ some 3 := by
  intro types
  have htypes : types = [⟨1, "Food", 0⟩, ⟨2, "Fruit", 0⟩, ⟨3, "Apples", 2⟩] := by
    decide +kernel
  obtain ⟨hroot, hreturn⟩ := ascend_run .gbp movedType
  have hmem : ⟨3, "Apples", 2⟩ ∈ types := by
    simp [htypes]
  exact ⟨htypes, hroot _ hmem, hreturn 3 1⟩

end Allowance.Ledger
