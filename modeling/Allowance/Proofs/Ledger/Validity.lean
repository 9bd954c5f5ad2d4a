import Allowance.Proofs.Currency
import Allowance.Proofs.Ledger.Admission
import Allowance.Proofs.Ledger.Persistence
import Allowance.Proofs.Text.Blank

/-!
# What is stored of entries

A request is checked as it was typed, before its texts are trimmed and its amounts are turned into
minor units. What is stored nevertheless passes the checks: no title or name is empty, no amount has
another sign than the one that was accepted, and everything that is derived fits the storage.
-/

namespace Allowance

/-! ## Signs of amounts -/

namespace CostPolicy

/-- The policy accepts an amount of so many minor units. -/
def Allows : CostPolicy → Int → Prop
  | positive, units => 0 < units
  | nonNegative, units => 0 ≤ units
  | any, _ => True

/-- What a policy accepts is accepted by another one as well. -/
def Implies (policy other : CostPolicy) : Prop :=
  ∀ units, policy.Allows units → other.Allows units

theorem accepts_iff {policy : CostPolicy} {m : Money} :
    policy.accepts m = true ↔ policy.Allows m.amount := by
  cases policy <;> simp [accepts, Allows]

/-- Amounts of one value have one sign, whatever their precision. -/
theorem allows_units {policy : CostPolicy} {m : Money} {precision : Nat} {units : Int}
    (hunits : m.HasUnits precision units) : policy.Allows units ↔ policy.Allows m.amount := by
  have hvalue := Money.hasUnits_iff_value.mp hunits
  cases policy with
  | positive =>
      rw [Allows, Allows, ← m.value_pos_iff, hvalue, Money.value_pos_iff]
  | nonNegative =>
      rw [Allows, Allows, ← m.value_nonneg_iff, hvalue, Money.value_nonneg_iff]
  | any => exact Iff.rfl

end CostPolicy

theorem checkEntry_eq_none {title : Option String} {policy : CostPolicy} {field : String}
    {amount : Option Money} : checkEntry title policy field amount = none ↔
      (∀ text, title = some text → checkText "title" text = none) ∧
        ∀ m, amount = some m → policy.Allows m.amount := by
  have hamount (m : Money) : checkAmount policy field m = none ↔ policy.Allows m.amount := by
    rw [← CostPolicy.accepts_iff]
    simp [checkAmount]
  rw [checkEntry, Option.or_eq_none_iff, Option.bind_eq_none_iff, Option.bind_eq_none_iff]
  simp only [hamount]

namespace Ledger

open Outcome

/-! ## Stored texts -/

/-- A text that has to be given: it is not empty, and no blanks are around it. -/
def IsLabel (s : String) : Prop :=
  s ≠ "" ∧ Text.HasBareEnds s

/-- Notes are absent, for which the empty text stands, or not blank and without blanks around. -/
def IsNote (s : String) : Prop :=
  s = "" ∨ Text.isBlankText s = false ∧ Text.HasBareEnds s

theorem isLabel_trim {field text : String} (h : checkText field text = none) :
    IsLabel (Text.trim text) := by
  unfold checkText at h
  split at h
  · cases h
  · next hblank =>
      exact ⟨fun hempty => hblank (Text.trim_eq_empty_iff.mp hempty), Text.hasBareEnds_trim text⟩

/-- An edit of a text that has to be given leaves one. -/
theorem isLabel_edited {field old : String} {given : Option String} (hold : IsLabel old)
    (hvalid : ∀ text, given = some text → checkText field text = none) :
    IsLabel ((given.map Text.trim).getD old) := by
  cases given with
  | none => exact hold
  | some text => exact isLabel_trim (hvalid text rfl)

theorem isNote_trim (text : String) : IsNote (Text.trim text) := by
  by_cases hempty : Text.trim text = ""
  · exact .inl hempty
  · exact .inr ⟨(Text.hasBareEnds_trim text).isBlankText_eq_false hempty,
      Text.hasBareEnds_trim text⟩

/-! ## Stored entries -/

/-- What is stored of an entry, with an amount that a policy allows. -/
structure IsEntry (policy : CostPolicy) (title notes : String) (amount : Int) : Prop where
  title : IsLabel title
  notes : IsNote notes
  storable : IsStorable amount
  allowed : policy.Allows amount

variable {l : Ledger} {policy : CostPolicy} {field : String}

/-- A valid entry is stored as one. -/
theorem isEntry_new {title notes : String} {amount : Money} {units : Int}
    (hvalid : checkEntry (some title) policy field (some amount) = none)
    (hunits : l.units amount = .ok units) :
    IsEntry policy (Text.trim title) (Text.trim notes) units := by
  obtain ⟨htitle, hamount⟩ := checkEntry_eq_none.mp hvalid
  obtain ⟨hvalue, hstorable⟩ := units_eq_ok.mp hunits
  exact ⟨isLabel_trim (htitle title rfl), isNote_trim notes, hstorable,
    (CostPolicy.allows_units hvalue).mpr (hamount amount rfl)⟩

/-- A valid edit of an entry leaves one, whatever it gives. -/
theorem IsEntry.edited {stored : CostPolicy} {oldTitle oldNotes : String} {oldUnits : Int}
    (h : IsEntry stored oldTitle oldNotes oldUnits) {title notes : Option String}
    {amount : Option Money} {units : Option Int}
    (hvalid : checkEntry title policy field amount = none)
    (hunits : l.units? amount = .ok units) (hpolicy : policy.Implies stored) :
    IsEntry stored ((title.map Text.trim).getD oldTitle) ((notes.map Text.trim).getD oldNotes)
      (units.getD oldUnits) := by
  obtain ⟨htitle, hamount⟩ := checkEntry_eq_none.mp hvalid
  have hnew : IsStorable (units.getD oldUnits) ∧ stored.Allows (units.getD oldUnits) := by
    cases amount with
    | none =>
        cases hunits
        exact ⟨h.storable, h.allowed⟩
    | some m =>
        obtain ⟨given, hgiven, rfl⟩ := map_eq_ok.mp hunits
        obtain ⟨hvalue, hstorable⟩ := units_eq_ok.mp hgiven
        exact ⟨hstorable, hpolicy _ ((CostPolicy.allows_units hvalue).mpr (hamount m rfl))⟩
  have hnotes : IsNote ((notes.map Text.trim).getD oldNotes) := by
    cases notes with
    | none => exact h.notes
    | some text => exact isNote_trim text
  exact ⟨isLabel_edited h.title htitle, hnotes, hnew.1, hnew.2⟩

/-- Every entered row is stored as an entry, where a policy allows the costs of all spends. -/
structure Valid (policy : CostPolicy) (l : Ledger) : Prop where
  incomes : ∀ row ∈ l.incomes, IsEntry .positive row.title row.notes row.amount
  payments : ∀ row ∈ l.payments, IsEntry .positive row.title row.notes row.cost
  spends : ∀ row ∈ l.spends, IsEntry policy row.title row.notes row.cost
  types : ∀ type ∈ l.types, IsLabel type.name

/-- The policy under which a request gives a cost to a spend, if it is about one. -/
def Request.policy? {α : Type} : Request α → Option CostPolicy
  | .addSpend spend => some spend.policy
  | .editSpend edit => some edit.policy
  | _ => none

namespace Valid

variable {units : Int} {given : Option Int} {id : Int}

theorem empty (policy : CostPolicy) (currency : Currency) : Valid policy (Ledger.empty currency) :=
  ⟨nofun, nofun, nofun, nofun⟩

/-! ## Entries -/

theorem insertIncome (h : Valid policy l) {income : NewIncome} (hvalid : income.rejection? = none)
    (hunits : l.units income.amount = .ok units) : Valid policy (l.insertIncome income units) :=
  { h with
    incomes := Table.forall_mem_append_row h.incomes (isEntry_new hvalid hunits) }

theorem updateIncome (h : Valid policy l) {edit : IncomeEdit} (hvalid : edit.rejection? = none)
    (hunits : l.units? edit.amount = .ok given) : Valid policy (l.updateIncome edit given) :=
  { h with
    incomes := Table.forall_mem_modify h.incomes fun _ _ hrow =>
      hrow.edited hvalid hunits fun _ => id }

theorem eraseIncome (h : Valid policy l) : Valid policy (l.eraseIncome id) :=
  { h with incomes := Table.forall_mem_erase h.incomes }

theorem insertPayment (h : Valid policy l) {payment : NewPayment}
    (hvalid : payment.rejection? = none) (hunits : l.units payment.cost = .ok units) :
    Valid policy (l.insertPayment payment units) :=
  { h with
    payments := Table.forall_mem_append_row h.payments (isEntry_new hvalid hunits) }

theorem updatePayment (h : Valid policy l) {edit : PaymentEdit} (hvalid : edit.rejection? = none)
    (hunits : l.units? edit.cost = .ok given) : Valid policy (l.updatePayment edit given) :=
  { h with
    payments := Table.forall_mem_modify h.payments fun _ _ hrow =>
      hrow.edited hvalid hunits fun _ => id }

theorem erasePayment (h : Valid policy l) : Valid policy (l.erasePayment id) :=
  { h with payments := Table.forall_mem_erase h.payments }

theorem insertSpend (h : Valid policy l) {spend : NewSpend} (hvalid : spend.rejection? = none)
    (hunits : l.units spend.cost = .ok units) (hpolicy : spend.policy.Implies policy) :
    Valid policy (l.insertSpend spend units) := by
  have hnew : IsEntry spend.policy (Text.trim spend.title) (Text.trim spend.notes) units :=
    isEntry_new hvalid hunits
  exact { h with
    spends := Table.forall_mem_append_row h.spends
      { hnew with allowed := hpolicy units hnew.allowed } }

theorem updateSpend (h : Valid policy l) {edit : SpendEdit} (hvalid : edit.rejection? = none)
    (hunits : l.units? edit.cost = .ok given) (hpolicy : edit.policy.Implies policy) :
    Valid policy (l.updateSpend edit given) :=
  { h with
    spends := Table.forall_mem_modify h.spends fun _ _ hrow => hrow.edited hvalid hunits hpolicy }

theorem eraseSpend (h : Valid policy l) : Valid policy (l.eraseSpend id) :=
  { h with spends := Table.forall_mem_erase h.spends }

theorem insertType (h : Valid policy l) {type : NewSpendType} (hvalid : type.rejection? = none) :
    Valid policy (l.insertType type) :=
  { h with
    types := Table.forall_mem_append_row h.types (isLabel_trim hvalid) }

theorem updateType (h : Valid policy l) {edit : SpendTypeEdit} (hvalid : edit.rejection? = none) :
    Valid policy (l.updateType edit) := by
  refine { h with types := Table.forall_mem_modify h.types fun type _ hlabel => ?_ }
  exact isLabel_edited hlabel (Option.bind_eq_none_iff.mp hvalid)

theorem eraseType (h : Valid policy l) : Valid policy (l.eraseType id) :=
  { h with types := Table.forall_mem_erase h.types }

/-! ## Requests -/

theorem recomputed {middle final : Ledger} {target : Option Int} (h : Valid policy middle)
    (hrecomputed : Recomputed middle target final) : Valid policy final := by
  obtain ⟨_, _, rfl⟩ := hrecomputed.exists_eq
  exact ⟨h.incomes, h.payments, h.spends, h.types⟩

/-- A request leaves every entry valid, if it accepts no cost that the policy does not allow. -/
theorem handle (h : Valid policy l) {α : Type} {request : Request α} {reply : Reply α}
    (hpolicy : ∀ given, request.policy? = some given → given.Implies policy)
    (hreply : l.handle request = .ok reply) : Valid policy reply.ledger := by
  cases request with
  | openMonth year month =>
      obtain ⟨_, _, ⟨row, _, rfl⟩ | ⟨_, days, _, rfl⟩⟩ := openMonth_eq_ok.mp hreply
      · exact h
      · exact ⟨h.incomes, h.payments, h.spends, h.types⟩
  | addIncome income =>
      obtain ⟨hvalid, _, amount, hamount, hend⟩ := addIncome_eq_ok.mp hreply
      exact (h.insertIncome hvalid hamount).recomputed (recomputed_of_settled hend)
  | editIncome edit =>
      obtain ⟨hvalid, row, _, amount, hamount, hend⟩ := editIncome_eq_ok.mp hreply
      exact (h.updateIncome hvalid hamount).recomputed (recomputed_of_edited hend)
  | removeIncome id =>
      obtain ⟨row, _, hend⟩ := removeIncome_eq_ok.mp hreply
      exact h.eraseIncome.recomputed (recomputed_of_settled hend)
  | addPayment payment =>
      obtain ⟨hvalid, _, _, cost, hcost, hend⟩ := addPayment_eq_ok.mp hreply
      exact (h.insertPayment hvalid hcost).recomputed (recomputed_of_settled hend)
  | editPayment edit =>
      obtain ⟨hvalid, row, _, _, cost, hcost, hend⟩ := editPayment_eq_ok.mp hreply
      exact (h.updatePayment hvalid hcost).recomputed (recomputed_of_edited hend)
  | removePayment id =>
      obtain ⟨row, _, hend⟩ := removePayment_eq_ok.mp hreply
      exact h.erasePayment.recomputed (recomputed_of_settled hend)
  | addSpend spend =>
      obtain ⟨hvalid, day, _, _, cost, hcost, hend⟩ := addSpend_eq_ok.mp hreply
      exact (h.insertSpend hvalid hcost (hpolicy _ rfl)).recomputed (recomputed_of_settled hend)
  | editSpend edit =>
      obtain ⟨hvalid, row, _, day, _, _, cost, hcost, hend⟩ := editSpend_eq_ok.mp hreply
      exact (h.updateSpend hvalid hcost (hpolicy _ rfl)).recomputed (recomputed_of_edited hend)
  | removeSpend id =>
      obtain ⟨row, _, day, _, hend⟩ := removeSpend_eq_ok.mp hreply
      exact h.eraseSpend.recomputed (recomputed_of_settled hend)
  | addSpendType type =>
      obtain ⟨hvalid, _, rfl⟩ := addSpendType_eq_ok.mp hreply
      exact h.insertType hvalid
  | editSpendType edit =>
      obtain ⟨hvalid, _, _, rfl⟩ := editSpendType_eq_ok.mp hreply
      exact h.updateType hvalid
  | removeSpendType id =>
      obtain ⟨_, _, rfl⟩ := removeSpendType_eq_ok.mp hreply
      exact h.eraseType
  | _ =>
      rw [Operation.IsReading.ledger_eq (by exact True.intro) hreply]
      exact h

theorem run (h : Valid policy l) {operations : List Operation}
    (hpolicy : ∀ operation ∈ operations, ∀ given, operation.request.policy? = some given →
      given.Implies policy) : Valid policy (l.run operations) :=
  run_invariant_of_allowed (Valid policy)
    (fun operation => ∀ given, operation.request.policy? = some given → given.Implies policy)
    (fun _ _ _ _ hrequest hl => hl.handle hrequest) h hpolicy

theorem any_run (currency : Currency) (operations : List Operation) :
    Valid .any ((Ledger.empty currency).run operations) :=
  (Valid.empty .any currency).run fun _ _ _ _ _ _ => trivial

end Valid

/-! ## Every run -/

/-- The saldo of a day is among the figures of its month. -/
theorem Sound.isStorable_saldo (h : Sound l) {day : DayRow} (hday : day ∈ l.days) :
    IsStorable day.saldo := by
  obtain ⟨row, hrow, hid⟩ := Table.mem_numbers.mp (h.integrity.dayMonth day hday)
  obtain ⟨_, _, _, _, hsaldos⟩ := (h.settled row hrow).storable
  exact hsaldos (day.id, day.saldo)
    (List.mem_map.mpr ⟨day, mem_daysOf.mpr ⟨hday, hid.symm⟩, rfl⟩)

/-- After every run of a new ledger, every entry is stored with a title and notes that are trimmed
and an amount that fits the storage, which is positive for incomes and payments; every figure fits
the storage; the ledger answers the currency that it was first prepared for, whatever currencies it
was prepared for later; and if all requests about spends carry one policy, then this policy allows
the cost of every spend. -/
theorem valid_run (currency : Currency) (operations : List Operation) :
    let l := (Ledger.empty currency).run operations
    Valid .any l ∧
    ((∀ row ∈ l.days, IsStorable row.saldo) ∧
      ∀ row ∈ l.months, IsStorable row.dailyBudget ∧ IsStorable row.totalIncome ∧
        IsStorable row.totalSpend ∧ IsStorable row.result) ∧
    (l.handle .currency = .ok (l.answer currency) ∧ Text.upper currency.code = currency.code ∧
      ∀ code, Currency.ofCode code = .ok currency → currency.code = Text.upper code) ∧
    ∀ policy : CostPolicy,
      (∀ operation ∈ operations, ∀ given, operation.request.policy? = some given →
        given = policy) →
      ∀ row ∈ l.spends, policy.Allows row.cost := by
  intro l
  have hsound : Sound l := (Sound.empty currency).run operations
  refine ⟨Valid.any_run currency operations, ⟨?_, ?_⟩, ⟨?_, ?_, ?_⟩, ?_⟩
  · exact fun row hrow => hsound.isStorable_saldo hrow
  · intro row hrow
    obtain ⟨hbudget, hincome, hspend, hresult, _⟩ := (hsound.settled row hrow).storable
    exact ⟨hbudget, hincome, hspend, hresult⟩
  · have hcurrency : l.currency = currency := currency_run currency operations
    exact handle_eq_answer rfl (congrArg Except.ok hcurrency)
  · exact currency.upper_code
  · exact fun code hcode => Currency.code_of_ofCode hcode
  · intro policy hpolicy row hrow
    have hvalid : Valid policy l := (Valid.empty policy currency).run
      fun operation hmem given hgiven => hpolicy operation hmem given hgiven ▸ fun _ => id
    exact (hvalid.spends row hrow).allowed

/-- Entries whose texts have blanks around them and whose amounts have more digits than the
currency, of which a cost of nothing is refused, and a second preparation for another currency. -/
def untrimmedEntries : List Operation :=
  [⟨.openMonth 2024 2⟩, ⟨.addIncome ⟨1, " Pay ", ⟨1000000, 3⟩, "  "⟩⟩, ⟨.prepare "eur"⟩,
    ⟨.addSpend ⟨3, "\tTea", ⟨250, 2⟩, 0, " green ", .positive⟩⟩,
    ⟨.addSpend ⟨3, "Water", ⟨0, 2⟩, 0, "", .positive⟩⟩,
    ⟨.editSpend ⟨1, none, none, none, some ⟨3, 0⟩, .positive⟩⟩]

theorem valid_untrimmedEntries :
    let l := (Ledger.empty .gbp).run untrimmedEntries
    l.incomes = [⟨1, 1, "Pay", "", 100000⟩] ∧ l.spends = [⟨1, 3, 0, "Tea", "green", 300⟩] ∧
      Valid .any l ∧ l.handle .currency = .ok (l.answer .gbp) ∧
      ∀ row ∈ l.spends, CostPolicy.positive.Allows row.cost := by
  obtain ⟨hvalid, _, ⟨hcurrency, _⟩, hpolicy⟩ := valid_run .gbp untrimmedEntries
  refine ⟨by decide +kernel, by decide +kernel, hvalid, hcurrency, hpolicy .positive ?_⟩
  simp [untrimmedEntries, Request.policy?]

end Ledger

end Allowance
