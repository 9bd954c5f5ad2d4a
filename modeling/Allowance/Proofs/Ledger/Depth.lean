import Mathlib.Data.List.Induction
import Allowance.Proofs.Ledger.Forest
import Allowance.Proofs.SpendType.Depth

/-!
# How deep the spend types of a ledger get

A type that moves comes to stand under a chain of limited length, but nothing is asked of a type
that is added, nor of what stands below a type that moves. The hierarchy of a ledger leaves the
limit by these two ways and by no other.
-/

namespace Allowance.Ledger

open Outcome SpendType

variable {l : Ledger}

/-- What a request adds or moves comes to stand deeper than it is meant to: a new type under a
chain that is too long, or a type on a walk that is too long through the moved one. -/
def Outgrows (l : Ledger) {α : Type} : Request α → Prop
  | .addSpendType type => ∃ length, HasChain l.types type.parent length ∧ maxDepth < length
  | .editSpendType edit =>
    ∃ parent length, edit.parent = some parent ∧ HasChain l.types parent length ∧
      ∃ type ∈ l.types, ∃ below, ascend l.types below type.id = some edit.id ∧
        maxDepth < below + length
  | _ => False

/-! ## One request -/

theorem isWithinDepth_insertType_iff (h : Integrity l) (hforest : IsForest l.types)
    (hwithin : IsWithinDepth l.types) {type : NewSpendType} (hparent : l.KnowsType type.parent) :
    IsWithinDepth (l.insertType type).types ↔ ¬ l.Outgrows (.addSpendType type) := by
  have hroot := parentOf?_noType (h.insertType hparent).types
  have hkept {id : Int} {length : Nat} (hold : HasChain l.types id length) :
      HasChain (l.insertType type).types id length :=
    ascend_mono (fun _ _ => parentOf?_insertType h hparent) hold
  have hnew {length : Nat} (hchain : HasChain l.types type.parent length) :
      HasChain (l.insertType type).types (l.counters.spendType + 1) (length + 1) :=
    .child (parentOf?_insertType_new h hparent) (hkept hchain)
  constructor
  · rintro hafter ⟨length, hchain, hdeep⟩
    obtain ⟨ancestors, hle, hfound⟩ := hafter _ (List.mem_append_right _ List.mem_cons_self)
    have hlength := hfound.unique hroot (hnew hchain)
    omega
  · intro hnot row hrow
    rcases List.mem_append.mp hrow with hold | hadded
    · obtain ⟨ancestors, hle, hchain⟩ := hwithin row hold
      exact ⟨ancestors, hle, hkept hchain⟩
    · obtain rfl := List.mem_singleton.mp hadded
      obtain ⟨length, hchain⟩ := (rooted_of_knowsType hforest hparent).ascend_eq
      exact ⟨length, Nat.le_of_not_lt fun hdeep => hnot ⟨length, hchain, hdeep⟩, hnew hchain⟩

theorem isWithinDepth_updateType_iff (h : Integrity l) (hforest : IsForest l.types)
    (hwithin : IsWithinDepth l.types) {edit : SpendTypeEdit} {type : SpendType}
    (htype : Table.find? l.types edit.id = some type)
    (hparent : ∀ parent, edit.parent = some parent → l.requireParent edit.id parent = .ok ()) :
    IsWithinDepth (l.updateType edit).types ↔ ¬ l.Outgrows (.editSpendType edit) := by
  cases hedit : edit.parent with
  | none =>
      have hnot : ¬ l.Outgrows (.editSpendType edit) := by
        rintro ⟨parent, _, hgiven, _⟩
        rw [hedit] at hgiven
        cases hgiven
      refine ⟨fun _ => hnot, fun _ row hrow => ?_⟩
      obtain ⟨old, hold, hid⟩ := exists_of_mem_updateType hrow
      obtain ⟨ancestors, hle, hchain⟩ := hwithin old hold
      exact ⟨ancestors, hle, hid ▸ ascend_mono
        (fun _ _ => parentOf?_updateType_of_none h htype hedit) hchain⟩
  | some parent =>
      have hroot := parentOf?_noType (ascending_updateType h edit)
      have hkept (id parent : Int) (hne : id ≠ edit.id)
          (hold : parentOf? l.types id = some parent) :
          parentOf? (l.updateType edit).types id = some parent :=
        parentOf?_updateType_of_ne h hne hold
      have hmoved := parentOf?_updateType_self h htype
      rw [hedit, Option.getD_some] at hmoved
      obtain ⟨length, _, hchain, htarget⟩ := exists_hasChain_of_hasCycle hkept
        (requireParent_eq_ok.mp (hparent parent hedit)).2
      constructor
      · rintro hafter ⟨_, other, hgiven, hother, row, hrow, below, hbelow, hdeep⟩
        obtain rfl := Option.some.inj (hedit.symm.trans hgiven)
        obtain rfl := hchain.unique (parentOf?_noType h.types) hother
        have hreturn := (rooted_of_knowsType hforest
          (.inr (Table.mem_numbers_of_find? htype))).ascend_ne (parentOf?_noType h.types)
        have hrowChain := hasChain_of_below hreturn hkept hmoved htarget hbelow
        obtain ⟨edited, hmem, hid⟩ := exists_mem_updateType edit hrow
        obtain ⟨ancestors, hle, hfound⟩ := hafter edited hmem
        rw [hid] at hfound
        have hlength := hfound.unique hroot hrowChain
        omega
      · intro hnot row hrow
        obtain ⟨old, hold, hid⟩ := exists_of_mem_updateType hrow
        rw [← hid]
        obtain ⟨ancestors, hle, holdChain⟩ := hwithin old hold
        rcases (hforest old hold).hasChain_move hkept hmoved htarget with
          ⟨same, hbefore, hafter⟩ | ⟨below, hbelow, hafter⟩
        · obtain rfl := hbefore.unique (parentOf?_noType h.types) holdChain
          exact ⟨ancestors, hle, hafter⟩
        · refine ⟨below + length, Nat.le_of_not_lt fun hdeep => hnot ?_, hafter⟩
          exact ⟨parent, length, hedit, hchain, old, hold, below, hbelow, hdeep⟩

/-- Removing a type leaves the chains of the others as they are. -/
theorem isWithinDepth_eraseType (h : Integrity l) (hwithin : IsWithinDepth l.types) {id : Int}
    (hunused : l.usage? id = none) : IsWithinDepth (l.eraseType id).types := by
  have hchildless := (Integrity.usage?_eq_none.mp hunused).2.2
  have hkept {other : Int} {length : Nat} (hne : other ≠ id)
      (hold : HasChain l.types other length) : HasChain (l.eraseType id).types other length := by
    induction length generalizing other with
    | zero => exact hold
    | succ length ih =>
        obtain ⟨parent, hlookup, hrest⟩ := Option.bind_eq_some_iff.mp hold
        obtain ⟨row, hrow, _, rfl⟩ := (parentOf?_eq_some h.types).mp hlookup
        exact .child (parentOf?_eraseType h hunused hne hlookup) (ih (hchildless row hrow) hrest)
  intro row hrow
  obtain ⟨hmem, hne⟩ := Table.mem_erase.mp hrow
  obtain ⟨ancestors, hle, hchain⟩ := hwithin row hmem
  exact ⟨ancestors, hle, hkept hne hchain⟩

/-- A request takes the hierarchy over the limit exactly if it outgrows it. -/
theorem isWithinDepth_handle_iff (h : Integrity l) (hforest : IsForest l.types)
    (hwithin : IsWithinDepth l.types) {α : Type} {request : Request α} {reply : Reply α}
    (hreply : l.handle request = .ok reply) :
    IsWithinDepth reply.ledger.types ↔ ¬ l.Outgrows request := by
  have hkept (hsame : reply.ledger.types = l.types) :
      IsWithinDepth reply.ledger.types ↔ ¬ False :=
    iff_of_true (hsame ▸ hwithin) not_false
  have hrecomputed {middle : Ledger} {target : Option Int}
      (hfinal : Recomputed middle target reply.ledger) (hmiddle : middle.types = l.types) :
      IsWithinDepth reply.ledger.types ↔ ¬ False := by
    obtain ⟨months, days, heq⟩ := hfinal.exists_eq
    rw [heq] at hkept ⊢
    exact hkept hmiddle
  cases request with
  | openMonth year month =>
      obtain ⟨_, _, ⟨row, _, rfl⟩ | ⟨_, days, _, rfl⟩⟩ := openMonth_eq_ok.mp hreply
      · exact hkept rfl
      · exact hkept rfl
  | addIncome income =>
      obtain ⟨_, _, _, _, hend⟩ := addIncome_eq_ok.mp hreply
      exact hrecomputed (recomputed_of_settled hend) rfl
  | editIncome edit =>
      obtain ⟨_, _, _, _, _, hend⟩ := editIncome_eq_ok.mp hreply
      exact hrecomputed (recomputed_of_edited hend) rfl
  | removeIncome id =>
      obtain ⟨_, _, hend⟩ := removeIncome_eq_ok.mp hreply
      exact hrecomputed (recomputed_of_settled hend) rfl
  | addPayment payment =>
      obtain ⟨_, _, _, _, _, hend⟩ := addPayment_eq_ok.mp hreply
      exact hrecomputed (recomputed_of_settled hend) rfl
  | editPayment edit =>
      obtain ⟨_, _, _, _, _, _, hend⟩ := editPayment_eq_ok.mp hreply
      exact hrecomputed (recomputed_of_edited hend) rfl
  | removePayment id =>
      obtain ⟨_, _, hend⟩ := removePayment_eq_ok.mp hreply
      exact hrecomputed (recomputed_of_settled hend) rfl
  | addSpend spend =>
      obtain ⟨_, _, _, _, _, _, hend⟩ := addSpend_eq_ok.mp hreply
      exact hrecomputed (recomputed_of_settled hend) rfl
  | editSpend edit =>
      obtain ⟨_, _, _, _, _, _, _, _, hend⟩ := editSpend_eq_ok.mp hreply
      exact hrecomputed (recomputed_of_edited hend) rfl
  | removeSpend id =>
      obtain ⟨_, _, _, _, hend⟩ := removeSpend_eq_ok.mp hreply
      exact hrecomputed (recomputed_of_settled hend) rfl
  | addSpendType type =>
      obtain ⟨_, hparent, rfl⟩ := addSpendType_eq_ok.mp hreply
      exact isWithinDepth_insertType_iff h hforest hwithin hparent
  | editSpendType edit =>
      obtain ⟨_, ⟨type, htype⟩, hparent, rfl⟩ := editSpendType_eq_ok.mp hreply
      exact isWithinDepth_updateType_iff h hforest hwithin htype hparent
  | removeSpendType id =>
      obtain ⟨_, hunused, rfl⟩ := removeSpendType_eq_ok.mp hreply
      exact iff_of_true (isWithinDepth_eraseType h hwithin hunused) not_false
  | _ =>
      exact hkept (congrArg types (Operation.IsReading.ledger_eq (by exact True.intro) hreply))

/-! ## Runs -/

/-- Along a run of a new ledger every spend type has at most as many ancestors as it is meant to
have, exactly if no request that succeeds outgrows the hierarchy that it finds. -/
theorem isWithinDepth_run_iff (currency : Currency) (operations : List Operation) :
    (∀ earlier, earlier <+: operations →
      IsWithinDepth ((Ledger.empty currency).run earlier).types) ↔
    ∀ earlier operation, earlier ++ [operation] <+: operations →
      ∀ reply, ((Ledger.empty currency).run earlier).handle operation.request = .ok reply →
        ¬ ((Ledger.empty currency).run earlier).Outgrows operation.request := by
  have hstep {earlier : List Operation} {operation : Operation}
      (hwithin : IsWithinDepth ((Ledger.empty currency).run earlier).types)
      {reply : Reply operation.answer}
      (hreply : ((Ledger.empty currency).run earlier).handle operation.request = .ok reply) :
      IsWithinDepth ((Ledger.empty currency).run (earlier ++ [operation])).types ↔
        ¬ ((Ledger.empty currency).run earlier).Outgrows operation.request := by
    obtain ⟨hintegrity, hforest⟩ := isForest_run currency earlier
    rw [run_concat, after_of_handle hreply]
    exact isWithinDepth_handle_iff hintegrity hforest hwithin hreply
  constructor
  · intro hall earlier operation hprefix reply hreply
    exact (hstep (hall earlier ((List.prefix_append _ _).trans hprefix)) hreply).mp
      (hall _ hprefix)
  · intro hnone earlier hprefix
    induction earlier using List.reverseRecOn with
    | nil =>
        intro type htype
        cases htype
    | append_singleton earlier operation ih =>
        have hbefore := ih ((List.prefix_append _ _).trans hprefix)
        cases hreply : ((Ledger.empty currency).run earlier).handle operation.request with
        | ok reply => exact (hstep hbefore hreply).mpr (hnone earlier operation hprefix reply hreply)
        | error why =>
            rw [run_concat, after_of_error hreply]
            exact hbefore

/-- Seventeen types, each under the one before it. -/
def nestedTypes : List Operation :=
  (List.range 17).map fun i => ⟨.addSpendType ⟨"Food", i⟩⟩

/-- The last of seventeen types below each other has sixteen ancestors. -/
theorem not_isWithinDepth_nestedTypes :
    HasChain ((Ledger.empty .gbp).run nestedTypes).types 17 17 ∧
      ¬ IsWithinDepth ((Ledger.empty .gbp).run nestedTypes).types := by
  decide +kernel

/-- A type that moves under fifteen others may do so, but the one below it gets too deep. -/
example :
    let nested : List Operation := (List.range 15).map fun i => ⟨.addSpendType ⟨"Food", i⟩⟩
    let l := (Ledger.empty .gbp).run (nested ++ [⟨.addSpendType ⟨"Drinks", 0⟩⟩,
      ⟨.addSpendType ⟨"Tea", 16⟩⟩, ⟨.editSpendType ⟨16, none, some 15⟩⟩])
    HasChain l.types 16 16 ∧ HasChain l.types 17 17 := by
  decide +kernel

end Allowance.Ledger
