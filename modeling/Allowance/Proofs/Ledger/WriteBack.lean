import Allowance.Proofs.Ledger.Admission
import Allowance.Proofs.Ledger.Recomputation
import Allowance.Proofs.Ledger.Search
import Allowance.Proofs.Month.Uniform

/-!
# Writing back a recomputed month

A month of a ledger has the precision of the currency, so that its derived values have minor units
and the write-back never refuses one of its own numbers. Whatever precision a request is refused
for is that of an amount that the request gives.
-/

namespace Allowance.Ledger

open Month Money Number Outcome Search

/-! ## Reasons of a rejection -/

section Rejections

variable {α β : Type} {allowed other : Rejection → Prop} {x : Except Failure α}

/-- If anything is rejected, then for an allowed reason. Failures of other kinds are left open. -/
def RejectsOnly (allowed : Rejection → Prop) (x : Except Failure α) : Prop :=
  ∀ why, x = .error (.rejected why) → allowed why

/-- Nothing is rejected. -/
abbrev RejectsNothing (x : Except Failure α) : Prop :=
  RejectsOnly (fun _ => False) x

namespace RejectsOnly

theorem ok (a : α) : RejectsOnly allowed (.ok a : Except Failure α) :=
  nofun

theorem mono (h : RejectsOnly other x) (hsub : ∀ why, other why → allowed why) :
    RejectsOnly allowed x :=
  fun why hwhy => hsub why (h why hwhy)

theorem of_nothing (h : RejectsNothing x) : RejectsOnly allowed x :=
  h.mono fun _ => False.elim

theorem bind {f : α → Except Failure β} (hx : RejectsOnly allowed x)
    (hf : ∀ a, x = .ok a → RejectsOnly allowed (f a)) : RejectsOnly allowed (x >>= f) := by
  intro why hwhy
  rcases bind_eq_error.mp hwhy with hfirst | ⟨a, ha, hlater⟩
  · exact hx why hfirst
  · exact hf a ha why hlater

/-- A step that rejects nothing leaves the reasons to what follows. -/
theorem after {f : α → Except Failure β} (hx : RejectsNothing x)
    (hf : ∀ a, x = .ok a → RejectsOnly allowed (f a)) : RejectsOnly allowed (x >>= f) :=
  (of_nothing hx).bind hf

theorem map {f : α → β} (hx : RejectsOnly allowed x) : RejectsOnly allowed (x.map f) :=
  fun why hwhy => hx why (map_eq_error.mp hwhy)

theorem mapM {f : α → Except Failure β} {items : List α}
    (hf : ∀ item ∈ items, RejectsOnly allowed (f item)) :
    RejectsOnly allowed (items.mapM f) := by
  intro why hwhy
  obtain ⟨item, hitem, hfails⟩ := exists_of_mapM_eq_error hwhy
  exact hf item hitem why hfails

end RejectsOnly

end Rejections

/-! ## Steps that reject nothing -/

variable {l : Ledger}

theorem requireStorable_rejects (i : Int) : RejectsNothing (requireStorable i) := by
  unfold requireStorable
  split <;> nofun

theorem require_rejects {α : Type} [Numbered α] (rows : List α) (what : Entity) (id : Int) :
    RejectsNothing (require rows what id) := by
  unfold require
  split
  · nofun
  · split <;> nofun

theorem requireType_rejects (l : Ledger) (id : Int) : RejectsNothing (l.requireType id) := by
  unfold requireType
  split
  · nofun
  · exact (require_rejects _ _ _).map

theorem monthOfSpend_rejects (l : Ledger) (row : SpendRow) :
    RejectsNothing (l.monthOfSpend row) := by
  unfold monthOfSpend
  split <;> nofun

theorem loadMonth_rejects (l : Ledger) (id : Int) : RejectsNothing (l.loadMonth id) :=
  (require_rejects _ _ _).map

theorem daysInMonth_rejects (year month : Int) :
    RejectsNothing (Calendar.daysInMonth year month) := by
  have hdate : RejectsNothing (Date.ofNumbers year month 28) := by
    unfold Date.ofNumbers
    split
    · nofun
    · split
      · nofun
      · split <;> nofun
  refine .bind (.bind hdate fun date _ => ?_) fun _ _ => .ok _
  dsimp only
  split <;> nofun

theorem hasCycle_rejects (types : List SpendType) (subject parent : Int) :
    RejectsNothing (SpendType.hasCycle types subject parent) := by
  have hmeets (steps : Nat) (current : Int) :
      RejectsNothing (SpendType.meets types subject steps current) := by
    induction steps generalizing current with
    | zero => nofun
    | succ steps ih =>
        unfold SpendType.meets
        split
        · nofun
        · split
          · nofun
          · split
            · nofun
            · exact ih _
  unfold SpendType.hasCycle
  split
  · nofun
  · exact hmeets _ _

theorem requireGivenParent_rejects (l : Ledger) (edit : SpendTypeEdit) :
    RejectsNothing (l.requireGivenParent edit) := by
  unfold requireGivenParent
  split
  next parent _ =>
    refine .after (requireType_rejects _ _) fun _ _ => ?_
    refine .after (hasCycle_rejects _ _ _) fun _ _ => ?_
    split <;> nofun
  next => nofun

theorem requireUnused_rejects (l : Ledger) (id : Int) : RejectsNothing (l.requireUnused id) := by
  unfold requireUnused
  split <;> nofun

theorem monthOn_rejects (l : Ledger) (year month : Int) :
    RejectsNothing (l.monthOn year month) := by
  refine .after (requireStorable_rejects year) fun _ _ => ?_
  refine .after (requireStorable_rejects month) fun _ _ => ?_
  split <;> nofun

theorem dayOn_rejects (l : Ledger) (date : Date) : RejectsNothing (l.dayOn date) := by
  unfold dayOn
  dsimp only
  split <;> nofun

theorem day_rejects (l : Ledger) (id : Int) : RejectsNothing (l.day id) := by
  refine .after (require_rejects _ _ _) fun row _ => ?_
  refine .after (loadMonth_rejects l row.monthId) fun month _ => ?_
  split <;> nofun

/-! ## The write-back -/

/-- An amount of the ledger's own precision is its minor units, which are refused at most for being
too large. -/
theorem units_rejects {m : Money} (h : m.precision = l.precision) : RejectsNothing (l.units m) := by
  have hunits : m.minorUnits l.precision = .ok m.amount := by
    rw [eq_mk h, minorUnits_mk]
  rw [Ledger.units, hunits]
  exact (requireStorable_rejects m.amount).bind fun _ _ => .ok _

/-- The numbers of a month are written without one of them being refused for its precision. -/
theorem saveMonth_rejects {month : Month}
    (h : ∀ amount ∈ month.derived.amounts, amount.precision = l.precision) :
    RejectsNothing (l.saveMonth month) := by
  simp only [Derived.amounts, derived, List.forall_mem_cons] at h
  obtain ⟨hbudget, hincome, hspend, hresult, hsaldos⟩ := h
  have hbalances : RejectsNothing (l.balances month.days) := by
    refine .mapM fun day hday => ?_
    exact (units_rejects (hsaldos _ (List.mem_map_of_mem hday))).bind fun _ _ => .ok _
  exact (units_rejects hbudget).bind fun _ _ => (units_rejects hincome).bind fun _ _ =>
    (units_rejects hspend).bind fun _ _ => (units_rejects hresult).bind fun _ _ =>
      hbalances.bind fun _ _ => .ok _

theorem monthOf_isUniform (l : Ledger) (row : MonthRow) :
    (l.monthOf row).IsUniform l.precision where
  incomes := by
    intro income hincome
    obtain ⟨_, _, rfl⟩ := List.mem_map.mp hincome
    rfl
  payments := by
    intro payment hpayment
    obtain ⟨_, _, rfl⟩ := List.mem_map.mp hpayment
    rfl
  spends := by
    intro day hday spend hspend
    obtain ⟨_, _, rfl⟩ := List.mem_map.mp hday
    obtain ⟨_, _, rfl⟩ := List.mem_map.mp hspend
    rfl

/-- A month that lies in the calendar is recomputed with numbers of the ledger's precision. -/
theorem exists_recomputed_monthOf {row : MonthRow} {length : Nat}
    (hlength : Calendar.daysInMonth row.year row.month = .ok length) :
    ∃ settled, (l.monthOf row).recompute none l.precision = .ok settled ∧
      ∀ amount ∈ settled.derived.amounts, amount.precision = l.precision := by
  have hcount : (l.monthOf row).divisor none = .ok (length : Int) := by
    change (Calendar.daysInMonth row.year row.month).map Int.ofNat = _
    rw [hlength]
    rfl
  obtain ⟨_, _, hdays⟩ := Calendar.daysInMonth_eq_ok hlength
  have hpositive : (1 : Int) ≤ length := by
    have := (Calendar.monthLength_bounds row.year.toNat row.month.toNat).1
    omega
  obtain ⟨settled, hsettled, hprecision, _⟩ :=
    (l.monthOf_isUniform row).exists_recomputed hcount hpositive
  exact ⟨settled, hsettled, hprecision⟩

theorem settle_rejects (l : Ledger) (id : Int) : RejectsNothing (l.settle id) := by
  refine (loadMonth_rejects l id).bind fun loaded hloaded => ?_
  obtain ⟨row, _, rfl⟩ := map_eq_ok.mp hloaded
  cases hlength : Calendar.daysInMonth row.year row.month with
  | error why =>
      -- Without a length of the month there is no budget, and nothing to be written.
      have hfails : (l.monthOf row).recompute none l.precision = .error why := by
        have hdivisor : (l.monthOf row).divisor none = .error why := by
          change (Calendar.daysInMonth row.year row.month).map Int.ofNat = _
          rw [hlength]
          rfl
        simp only [recompute, incomeTotal, Month.paymentsCost, totalAt_natCast, Except.map,
          hdivisor, bind, Except.bind]
      rw [hfails]
      intro reason hreason
      cases hreason
      exact daysInMonth_rejects _ _ reason hlength
  | ok length =>
      obtain ⟨settled, hsettled, hprecision⟩ := exists_recomputed_monthOf (l := l) hlength
      rw [hsettled]
      exact (saveMonth_rejects hprecision).bind fun _ _ => .ok _

theorem settled_rejects {α : Type} (l : Ledger) (id : Int) (value : α) (entry : LogEntry) :
    RejectsNothing (l.settled id value entry) :=
  (settle_rejects l id).bind fun _ _ => .ok _

theorem edited_rejects (l : Ledger) (id : Int) (amount : Option Money) (entry : LogEntry) :
    RejectsNothing (l.edited id amount entry) := by
  cases amount with
  | some m => exact settled_rejects l id () entry
  | none => nofun

/-! ## Requests that are refused for their precision -/

/-- Every amount that a request gives. -/
def Request.amounts {α : Type} : Request α → List Money
  | .addIncome income => [income.amount]
  | .editIncome edit => edit.amount.toList
  | .addPayment payment => [payment.cost]
  | .editPayment edit => edit.cost.toList
  | .addSpend spend => [spend.cost]
  | .editSpend edit => edit.cost.toList
  | .search criteria => criteria.minCost.toList ++ criteria.maxCost.toList
  | _ => []

/-- If an amount is refused for too many digits, it is a given one that really has too many. -/
def Blames (given : List Money) (precision : Nat) (why : Rejection) : Prop :=
  ∀ (amount : Money) (digits : Int), why = .tooPrecise amount digits →
    amount ∈ given ∧ digits = precision ∧ ∀ units, ¬ amount.HasUnits precision units

section Blames

variable {given : List Money} {precision : Nat}

theorem minorUnits_blames {m : Money} (hm : m ∈ given) :
    RejectsOnly (Blames given precision) (m.minorUnits precision) := by
  by_cases hunits : ∃ units, m.HasUnits precision units
  · obtain ⟨units, hunits⟩ := hunits
    rw [minorUnits_eq_ok.mpr hunits]
    exact .ok units
  · have hnone := not_exists.mp hunits
    rw [minorUnits_eq_error hnone]
    intro why hwhy amount digits hprecise
    cases hprecise.symm.trans (Failure.ofRejection_eq_rejected (Except.error.inj hwhy))
    exact ⟨hm, rfl, hnone⟩

theorem units_blames {m : Money} (hm : m ∈ given) :
    RejectsOnly (Blames given l.precision) (l.units m) :=
  (minorUnits_blames hm).bind fun _ _ =>
    .after (requireStorable_rejects _) fun _ _ => .ok _

theorem units?_blames {amount : Option Money} (hamount : amount.toList ⊆ given) :
    RejectsOnly (Blames given l.precision) (l.units? amount) := by
  cases amount with
  | none => exact .ok none
  | some m => exact (units_blames (hamount (List.mem_singleton_self m))).map

theorem refuse_blames {why : Option Rejection}
    (h : ∀ amount digits, why ≠ some (.tooPrecise amount digits)) :
    RejectsOnly (Blames given precision) (refuse why) := by
  cases why with
  | none => exact .ok ()
  | some reason =>
      rintro _ hwhy amount digits rfl
      have hsame := Failure.ofRejection_eq_rejected (Except.error.inj hwhy)
      exact absurd (congrArg some hsame.symm) (h amount digits)

theorem requireMonthNumber_blames (month : Int) :
    RejectsOnly (Blames given precision) (requireMonthNumber month) := by
  unfold requireMonthNumber
  split
  · rintro why hwhy amount digits rfl
    cases Failure.ofRejection_eq_rejected (Except.error.inj hwhy)
  · exact .ok ()

theorem ofCode_blames (code : String) :
    RejectsOnly (Blames given precision) (Currency.ofCode code) := by
  unfold Currency.ofCode
  split
  · exact .ok _
  · rintro why ⟨⟩ amount digits ⟨⟩

theorem checkText_ne (field text : String) (amount : Money) (digits : Int) :
    checkText field text ≠ some (.tooPrecise amount digits) := by
  unfold checkText
  split <;> simp

theorem checkEntry_ne (title : Option String) (policy : CostPolicy) (field : String)
    (checked : Option Money) (amount : Money) (digits : Int) :
    checkEntry title policy field checked ≠ some (.tooPrecise amount digits) := by
  rw [checkEntry, Ne, Option.or_eq_some_iff]
  rintro (htitle | ⟨_, hamount⟩)
  · obtain ⟨text, _, htext⟩ := Option.bind_eq_some_iff.mp htitle
    exact checkText_ne _ text amount digits htext
  · obtain ⟨m, _, hm⟩ := Option.bind_eq_some_iff.mp hamount
    unfold checkAmount at hm
    split at hm <;> simp at hm

theorem boundUnits_blames {bound : Option Money} (hbound : bound.toList ⊆ given) :
    RejectsOnly (Blames given precision) (boundUnits precision bound) := by
  cases bound with
  | none => exact .ok none
  | some m => exact (minorUnits_blames (hbound (List.mem_singleton_self m))).map

/-- A bound that is left out is not blamed. -/
theorem filteredUnits_blames {bound : Option Money} (keep : Money → Bool)
    (hbound : bound.toList ⊆ given) :
    RejectsOnly (Blames given precision) (boundUnits precision (bound.filter keep)) := by
  refine boundUnits_blames fun m hm => hbound ?_
  rw [Option.mem_toList] at hm ⊢
  exact (Option.filter_eq_some_iff.mp hm).1

theorem search_blames (l : Ledger) (criteria : Criteria) :
    RejectsOnly (Blames (criteria.minCost.toList ++ criteria.maxCost.toList) l.precision)
      (l.search criteria) := by
  have hclause : ∀ filter ∈ criteria.query.filters,
      RejectsOnly (Blames (criteria.minCost.toList ++ criteria.maxCost.toList) l.precision)
        (filter.clause l.precision) := by
    intro filter hfilter why hwhy
    -- Only the filter by cost is ever refused, for one of its bounds.
    have hcosts := costFilter_of_clause_error hfilter hwhy
    unfold costFilter at hcosts
    dsimp only at hcosts
    split at hcosts
    · cases hcosts
    · rw [← Option.some.inj hcosts] at hwhy
      exact ((filteredUnits_blames _ (List.subset_append_left _ _)).bind fun _ _ =>
        (filteredUnits_blames _ (List.subset_append_right _ _)).bind fun _ _ => .ok _) why hwhy
  have hprepared (select : Select) : RejectsNothing (requirePreparable select) := by
    have hcell (cell : Cell) : RejectsNothing (requireCell cell) := by
      cases cell with
      | integer i => exact requireStorable_rejects i
      | _ => nofun
    unfold requirePreparable
    split
    · nofun
    · exact (RejectsOnly.mapM fun cell _ => hcell cell).bind fun _ _ => .ok _
  have hrun (select : Select) : RejectsNothing (l.records? matchesLike select) := by
    unfold records?
    split <;> nofun
  exact ((RejectsOnly.mapM hclause).bind fun _ _ => .ok _).bind fun select _ =>
    .after (hprepared select) fun _ _ => .of_nothing (hrun select)

end Blames

/-- A request that is refused because an amount has too many digits has given this amount, and the
amount has no minor units. In particular no recomputation is ever the reason. -/
theorem handle_blames (l : Ledger) {α : Type} (request : Request α) :
    RejectsOnly (Blames request.amounts l.precision) (l.handle request) := by
  cases request with
  | prepare code =>
      rw [handle_prepare]
      exact (ofCode_blames code).map
  | currency | months | spendTypes =>
      rw [handle_of_read rfl]
      exact .ok _
  | openMonth year month =>
      rw [handle_openMonth]
      refine (requireMonthNumber_blames month).bind fun _ _ => ?_
      refine .after (requireStorable_rejects year) fun _ _ => ?_
      split
      · exact .ok _
      · exact .after (daysInMonth_rejects year month) fun _ _ => .ok _
  | month id =>
      rw [handle_of_read rfl]
      exact (RejectsOnly.of_nothing (loadMonth_rejects l id)).map
  | monthOn year month =>
      rw [handle_of_read rfl]
      exact (RejectsOnly.of_nothing (monthOn_rejects l year month)).map
  | dayOn date =>
      rw [handle_of_read rfl]
      exact (RejectsOnly.of_nothing (dayOn_rejects l date)).map
  | day id =>
      rw [handle_of_read rfl]
      exact (RejectsOnly.of_nothing (day_rejects l id)).map
  | addIncome income =>
      rw [handle_addIncome]
      refine (refuse_blames (checkEntry_ne _ _ _ _)).bind fun _ _ => ?_
      refine .after (require_rejects _ _ _) fun _ _ => ?_
      refine (units_blames (List.mem_singleton_self _)).bind fun amount _ => ?_
      exact .of_nothing (settled_rejects _ _ _ _)
  | editIncome edit =>
      rw [handle_editIncome]
      refine (refuse_blames (checkEntry_ne _ _ _ _)).bind fun _ _ => ?_
      refine .after (require_rejects _ _ _) fun row _ => ?_
      refine (units?_blames (List.Subset.refl _)).bind fun amount _ => ?_
      exact .of_nothing (edited_rejects _ _ _ _)
  | removeIncome id =>
      rw [handle_removeIncome]
      refine .after (require_rejects _ _ _) fun row _ => ?_
      exact .of_nothing (settled_rejects _ _ _ _)
  | addPayment payment =>
      rw [handle_addPayment]
      refine (refuse_blames (checkEntry_ne _ _ _ _)).bind fun _ _ => ?_
      refine .after (require_rejects _ _ _) fun _ _ => ?_
      refine .after (requireType_rejects _ _) fun _ _ => ?_
      refine (units_blames (List.mem_singleton_self _)).bind fun cost _ => ?_
      exact .of_nothing (settled_rejects _ _ _ _)
  | editPayment edit =>
      rw [handle_editPayment]
      refine (refuse_blames (checkEntry_ne _ _ _ _)).bind fun _ _ => ?_
      refine .after (require_rejects _ _ _) fun row _ => ?_
      refine .after (requireType_rejects _ _) fun _ _ => ?_
      refine (units?_blames (List.Subset.refl _)).bind fun cost _ => ?_
      exact .of_nothing (edited_rejects _ _ _ _)
  | removePayment id =>
      rw [handle_removePayment]
      refine .after (require_rejects _ _ _) fun row _ => ?_
      exact .of_nothing (settled_rejects _ _ _ _)
  | addSpend spend =>
      rw [handle_addSpend]
      refine (refuse_blames (checkEntry_ne _ _ _ _)).bind fun _ _ => ?_
      refine .after (require_rejects _ _ _) fun day _ => ?_
      refine .after (requireType_rejects _ _) fun _ _ => ?_
      refine (units_blames (List.mem_singleton_self _)).bind fun cost _ => ?_
      exact .of_nothing (settled_rejects _ _ _ _)
  | editSpend edit =>
      rw [handle_editSpend]
      refine (refuse_blames (checkEntry_ne _ _ _ _)).bind fun _ _ => ?_
      refine .after (require_rejects _ _ _) fun row _ => ?_
      refine .after (monthOfSpend_rejects _ _) fun monthId _ => ?_
      refine .after (requireType_rejects _ _) fun _ _ => ?_
      refine (units?_blames (List.Subset.refl _)).bind fun cost _ => ?_
      exact .of_nothing (edited_rejects _ _ _ _)
  | removeSpend id =>
      rw [handle_removeSpend]
      refine .after (require_rejects _ _ _) fun row _ => ?_
      refine .after (monthOfSpend_rejects _ _) fun monthId _ => ?_
      exact .of_nothing (settled_rejects _ _ _ _)
  | addSpendType type =>
      rw [handle_addSpendType]
      refine (refuse_blames (checkText_ne _ _)).bind fun _ _ => ?_
      exact .after (requireType_rejects _ _) fun _ _ => .ok _
  | editSpendType edit =>
      have hname : ∀ amount digits, edit.rejection? ≠ some (.tooPrecise amount digits) := by
        intro amount digits hname
        obtain ⟨text, _, htext⟩ := Option.bind_eq_some_iff.mp hname
        exact checkText_ne _ text amount digits htext
      rw [handle_editSpendType]
      refine (refuse_blames hname).bind fun _ _ => ?_
      refine .after (require_rejects _ _ _) fun _ _ => ?_
      exact .after (requireGivenParent_rejects _ _) fun _ _ => .ok _
  | removeSpendType id =>
      rw [handle_removeSpendType]
      refine .after (require_rejects _ _ _) fun _ _ => ?_
      exact .after (requireUnused_rejects _ _) fun _ _ => .ok _
  | spendType id =>
      rw [handle_of_read rfl]
      exact (RejectsOnly.of_nothing (require_rejects _ _ _)).map
  | search criteria =>
      rw [handle_of_read rfl]
      exact (search_blames l criteria).map

/-! ## Every run -/

section Revision

variable {middle : Ledger} {target : Option Int}

theorem Revision.currency_eq (h : Revision l middle target) : middle.currency = l.currency := by
  cases h <;> rfl

/-- The month that a revision has recomputed exists. -/
theorem Revision.target_mem (hrevision : Revision l middle target) (h : Integrity l) {id : Int}
    (htarget : target = some id) : id ∈ Table.numbers middle.months := by
  have hgiven {α : Type} {amount : Option α} {owner : Int}
      (howner : owner ∈ Table.numbers l.months) (hsome : (amount.map fun _ => owner) = some id) :
      id ∈ Table.numbers l.months := by
    obtain ⟨_, _, rfl⟩ := Option.map_eq_some_iff.mp hsome
    exact howner
  cases hrevision with
  | unchanged | monthOpened | typeAdded | typeEdited | typeRemoved => cases htarget
  | incomeAdded income amount _ hmonth _ =>
      cases htarget
      exact Table.find?_isSome_iff.mp hmonth
  | incomeEdited edit amount row _ hrow _ =>
      exact hgiven (h.incomeMonth row (Table.mem_of_find? hrow).1) htarget
  | incomeRemoved _ row hrow =>
      cases htarget
      exact h.incomeMonth row (Table.mem_of_find? hrow).1
  | paymentAdded payment cost _ hmonth _ _ =>
      cases htarget
      exact Table.find?_isSome_iff.mp hmonth
  | paymentEdited edit cost row _ hrow _ _ =>
      exact hgiven (h.paymentMonth row (Table.mem_of_find? hrow).1) htarget
  | paymentRemoved _ row hrow =>
      cases htarget
      exact h.paymentMonth row (Table.mem_of_find? hrow).1
  | spendAdded spend cost day _ hday _ _ =>
      cases htarget
      exact h.dayMonth day (Table.mem_of_find? hday).1
  | spendEdited edit cost row day _ _ hday _ _ =>
      exact hgiven (h.dayMonth day (Table.mem_of_find? hday).1) htarget
  | spendRemoved _ row day _ hday =>
      cases htarget
      exact h.dayMonth day (Table.mem_of_find? hday).1

/-- Whatever a request revises, the month is recomputed afterwards with numbers that are minor units
of the currency. -/
theorem Revision.exists_recomputed (hrevision : Revision l middle target) (h : Integrity l)
    {id : Int} (htarget : target = some id) :
    ∃ loaded settled, middle.loadMonth id = .ok loaded ∧
      loaded.recompute none l.precision = .ok settled ∧
      (∀ amount ∈ settled.derived.amounts, amount.minorUnits l.precision = .ok amount.amount) ∧
      RejectsNothing (middle.saveMonth settled) := by
  have hmiddle := h.revision hrevision
  obtain ⟨row, hrow, rfl⟩ := Table.mem_numbers.mp (hrevision.target_mem h htarget)
  obtain ⟨settled, hsettled, hprecision⟩ :=
    exists_recomputed_monthOf (l := middle) (hmiddle.calendar row hrow).1
  have hsame : middle.precision = l.precision := congrArg Currency.precision hrevision.currency_eq
  refine ⟨_, settled, loadMonth_of_find? (hmiddle.find?_month hrow), hsame ▸ hsettled, ?_,
    saveMonth_rejects hprecision⟩
  intro amount hamount
  rw [eq_mk ((hprecision amount hamount).trans hsame), minorUnits_mk]

end Revision

/-- A month whose entries have one precision is recomputed at this precision, with a daily budget
that is cut off at a minor unit. So in every state of a run, whatever a request revises, all numbers
of the recomputed month are minor units and none is refused when they are written. A request of a
run is refused for too many digits only if it gives an amount that has no minor units. -/
theorem writeBack_run :
    (∀ (m : Month) (days : Option ℤ) (precision : ℕ) (count : ℤ), m.IsUniform precision →
      m.divisor days = .ok count → 1 ≤ count →
      ∃ settled, m.recompute days precision = .ok settled ∧
        (∀ amount ∈ settled.derived.amounts, amount.precision = precision) ∧
        settled.dailyBudget.amount = truncate (m.surplusValue / count * 10 ^ precision)) ∧
    ∀ (currency : Currency) (operations : List Operation),
      let l := (Ledger.empty currency).run operations
      (∀ (middle : Ledger) (id : Int), Revision l middle (some id) →
        ∃ loaded settled, middle.loadMonth id = .ok loaded ∧
          loaded.recompute none currency.precision = .ok settled ∧
          (∀ amount ∈ settled.derived.amounts,
            amount.minorUnits currency.precision = .ok amount.amount) ∧
          ∀ why, middle.saveMonth settled ≠ .error (.rejected why)) ∧
      ∀ {α : Type} (request : Request α) (amount : Money) (digits : Int),
        l.handle request = .error (.rejected (.tooPrecise amount digits)) →
          amount ∈ request.amounts ∧ digits = currency.precision ∧
            ∀ units, ¬ amount.HasUnits currency.precision units := by
  refine ⟨fun m days precision count huniform => huniform.exists_recomputed, ?_⟩
  intro currency operations l
  have hprecision : l.precision = currency.precision :=
    congrArg Currency.precision (currency_run currency operations)
  have hintegrity : Integrity l := (Integrity.empty currency).run operations
  refine ⟨?_, ?_⟩
  · intro middle id hrevision
    rw [← hprecision]
    exact hrevision.exists_recomputed hintegrity rfl
  · intro α request amount digits hfails
    rw [← hprecision]
    exact handle_blames l request _ hfails amount digits rfl

/-- A month in yen whose deficit does not divide evenly by its days, with a day without spends. -/
def yenDeficit : Month where
  id := 1
  year := 2025
  month := 2
  incomes := []
  payments := [⟨1, 1, "Train", ⟨100, 0⟩, 0, ""⟩]
  days := [⟨1, 1, 1, zero 2, [⟨1, 1, "Tea", ⟨5, 0⟩, 0, ""⟩]⟩, ⟨2, 1, 2, zero 2, []⟩]
  dailyBudget := zero 2
  totalIncome := zero 2
  totalSpend := zero 2
  result := zero 2

/-- A month in yen that is open and has an income. -/
def yenMonth : List Operation :=
  [⟨.openMonth 2025 2⟩, ⟨.addIncome ⟨1, "Pay", ⟨100, 0⟩, ""⟩⟩]

theorem writeBack_yen :
    (∃ settled, yenDeficit.recompute none (0 : ℕ) = .ok settled ∧
      (∀ amount ∈ settled.derived.amounts, amount.precision = 0) ∧
      settled.derived.amounts = [⟨-3, 0⟩, ⟨0, 0⟩, ⟨-105, 0⟩, ⟨-105, 0⟩, ⟨-8, 0⟩, ⟨-11, 0⟩]) ∧
    let l := (Ledger.empty .jpy).run yenMonth
    (∃ loaded settled, (l.eraseIncome 1).loadMonth 1 = .ok loaded ∧
      loaded.recompute none Currency.jpy.precision = .ok settled ∧
      ∀ why, (l.eraseIncome 1).saveMonth settled ≠ .error (.rejected why)) ∧
    l.handle (.addIncome ⟨1, "Coin", ⟨5, 1⟩, ""⟩) = .error (.rejected (.tooPrecise ⟨5, 1⟩ 0)) ∧
    ∀ units, ¬ HasUnits ⟨5, 1⟩ 0 units := by
  obtain ⟨hmonths, hruns⟩ := writeBack_run
  obtain ⟨hrevisions, hrequests⟩ := hruns .jpy yenMonth
  obtain ⟨settled, hsettled, hprecision, _⟩ := hmonths yenDeficit none 0 28
    ⟨by decide, by decide, by decide⟩ rfl (by decide)
  have hvalues : (yenDeficit.recompute none (0 : ℕ)).map (·.derived.amounts) =
      .ok [⟨-3, 0⟩, ⟨0, 0⟩, ⟨-105, 0⟩, ⟨-105, 0⟩, ⟨-8, 0⟩, ⟨-11, 0⟩] := by
    rfl
  rw [hsettled] at hvalues
  have hfails : ((Ledger.empty .jpy).run yenMonth).handle (.addIncome ⟨1, "Coin", ⟨5, 1⟩, ""⟩) =
      .error (.rejected (.tooPrecise ⟨5, 1⟩ 0)) := by
    have hmonth : require ((Ledger.empty .jpy).run yenMonth).months .month 1 =
        .ok ⟨1, 2025, 2, 3, 100, 0, 100⟩ :=
      require_eq_ok.mpr (by decide +kernel)
    have hwritable : (Rejection.tooPrecise ⟨5, 1⟩ 0).isWritable = true := by decide +kernel
    have hunits : ((Ledger.empty .jpy).run yenMonth).units ⟨5, 1⟩ =
        .error (.rejected (.tooPrecise ⟨5, 1⟩ 0)) := by
      rw [Ledger.units, Ledger.precision, currency_run]
      exact congrArg Except.error (if_pos hwritable)
    simp only [handle_addIncome, hmonth, hunits]
    rfl
  obtain ⟨loaded, written, hloaded, hwritten, _, haccepted⟩ :=
    hrevisions _ 1 (.incomeRemoved 1 ⟨1, 1, "Pay", "", 100⟩ (by decide +kernel))
  exact ⟨⟨settled, hsettled, hprecision, Except.ok.inj hvalues⟩,
    ⟨loaded, written, hloaded, hwritten, haccepted⟩, hfails, (hrequests _ _ _ hfails).2.2⟩

end Allowance.Ledger
