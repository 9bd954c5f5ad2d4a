import Allowance.Proofs.Ledger.Effect
import Allowance.Proofs.Ledger.Validity

/-!
# Taking a change back

An entry that was just added can be removed, and an amount that was just edited can be edited back.
The month is recomputed each time, and what comes out in the end are the figures that it had before:
they are those of its entries, and they were stored already, so that they fit the storage.
-/

namespace Allowance.Ledger

open Outcome

/-- A request succeeds and leaves a certain ledger behind. -/
def LeadsTo {α : Type} (l : Ledger) (request : Request α) (final : Ledger) : Prop :=
  ∃ reply, l.handle request = .ok reply ∧ reply.ledger = final

/-! ## The figures of the month -/

variable {l base middle final : Ledger} {monthId : Int}

/-- Recomputing a month of a sound ledger restores its figures, whatever was written over them. -/
theorem Sound.recomputed_withFigures (h : Sound base) {row : MonthRow} (hrow : row ∈ base.months)
    {f : Figures} (hkeys : f.saldos.map Prod.fst = (base.daysOf row.id).map (·.id)) :
    Recomputed (base.withFigures row.id f) (some row.id) base := by
  have hsettled := h.settled row hrow
  have hwritten : Integrity (base.withFigures row.id f) := h.integrity.withFigures row.id f
  have hmem : row.withFigures f ∈ (base.withFigures row.id f).months :=
    Table.mem_modify.mpr ⟨row, hrow, if_pos rfl⟩
  have hcomputed : (base.withFigures row.id f).computed (row.withFigures f) = base.stored row :=
    computed_withFigures.trans hsettled.stored_eq.symm
  have hback : (base.withFigures row.id f).withFigures row.id (base.stored row) = base := by
    rw [withFigures_withFigures]
    · exact h.integrity.withFigures_stored_eq_self hrow
    · simp [hkeys, stored]
  refine (hwritten.recomputed_iff_storable hmem).mpr ?_
  rw [hcomputed]
  exact ⟨hsettled.storable, hback.symm⟩

/-- A ledger that differs from a sound one in entries leads back to it by another recomputation of
the month, once the entries are as they were. -/
theorem Sound.exists_settled_back (h : Sound base) (hmiddle : Integrity middle)
    (hmonths : middle.months = base.months) (hdays : middle.days = base.days)
    (hrecomputed : Recomputed middle (some monthId) final) :
    ∃ f, final = middle.withFigures monthId f ∧
      ∀ {α : Type} (value : α) (entry : LogEntry), ∃ undone,
        (base.withFigures monthId f).settled monthId value entry = .ok undone ∧
          undone.ledger = base := by
  obtain ⟨row, hrow, rfl, _, hfinal⟩ := hmiddle.recomputed hrecomputed
  have hkeys : (middle.computed row).saldos.map Prod.fst = (base.daysOf row.id).map (·.id) := by
    rw [computed_keys, daysOf, hdays]
    rfl
  obtain ⟨month, hsettle⟩ := h.recomputed_withFigures (hmonths ▸ hrow) hkeys
  exact ⟨_, hfinal, fun value entry => ⟨_, settled_eq_ok.mpr ⟨base, month, hsettle, rfl⟩, rfl⟩⟩

/-! ## Removing what was added -/

/-- A ledger stays sound when more numbers count as given out. -/
theorem Sound.of_counters (h : Sound l) {counters : Counters}
    (hmonth : l.counters.month ≤ counters.month) (hday : l.counters.day ≤ counters.day)
    (hincome : l.counters.income ≤ counters.income)
    (hpayment : l.counters.payment ≤ counters.payment)
    (hspend : l.counters.spend ≤ counters.spend)
    (htype : l.counters.spendType ≤ counters.spendType) : Sound { l with counters } where
  integrity :=
    { h.integrity with
      months := h.integrity.months.of_le hmonth
      days := h.integrity.days.of_le hday
      incomes := h.integrity.incomes.of_le hincome
      payments := h.integrity.payments.of_le hpayment
      spends := h.integrity.spends.of_le hspend
      types := h.integrity.types.of_le htype }
  settled row hrow := (h.settled row hrow).congr rfl rfl

namespace Integrity

theorem eraseIncome_insertIncome (h : Integrity l) (income : NewIncome) (amount : Int) :
    (l.insertIncome income amount).eraseIncome (l.counters.income + 1) =
      { l with counters := { l.counters with income := l.counters.income + 1 } } := by
  have herased : Table.erase (l.insertIncome income amount).incomes (l.counters.income + 1) =
      l.incomes :=
    h.incomes.erase_append_next rfl
  rw [Ledger.eraseIncome, herased]
  rfl

theorem erasePayment_insertPayment (h : Integrity l) (payment : NewPayment) (cost : Int) :
    (l.insertPayment payment cost).erasePayment (l.counters.payment + 1) =
      { l with counters := { l.counters with payment := l.counters.payment + 1 } } := by
  have herased : Table.erase (l.insertPayment payment cost).payments (l.counters.payment + 1) =
      l.payments :=
    h.payments.erase_append_next rfl
  rw [Ledger.erasePayment, herased]
  rfl

theorem eraseSpend_insertSpend (h : Integrity l) (spend : NewSpend) (cost : Int) :
    (l.insertSpend spend cost).eraseSpend (l.counters.spend + 1) =
      { l with counters := { l.counters with spend := l.counters.spend + 1 } } := by
  have herased : Table.erase (l.insertSpend spend cost).spends (l.counters.spend + 1) =
      l.spends :=
    h.spends.erase_append_next rfl
  rw [Ledger.eraseSpend, herased]
  rfl

/-- A day is found again after figures were written. -/
theorem find?_day_withFigures (h : Integrity l) {id : Int} {day : DayRow}
    (hday : Table.find? l.days id = some day) (f : Figures) :
    Table.find? (l.withFigures monthId f).days id = some (withBalance f.saldos day) := by
  obtain ⟨hmem, hid⟩ := Table.mem_of_find? hday
  rw [(h.withFigures monthId f).days.find?_eq_some_iff]
  exact ⟨List.mem_map_of_mem hmem, by simpa using hid⟩

end Integrity

namespace Sound

theorem removeIncome_after_add (h : Sound l) {income : NewIncome} {reply : Reply Int}
    (hreply : l.handle (.addIncome income) = .ok reply) :
    reply.ledger.LeadsTo (.removeIncome reply.value)
      { l with counters := { l.counters with income := reply.value } } := by
  obtain ⟨_, hmonth, amount, _, hend⟩ := addIncome_eq_ok.mp hreply
  have hbase : Sound
      { l with counters := { l.counters with income := l.counters.income + 1 } } := by
    apply h.of_counters <;> simp
  obtain ⟨f, hledger, hback⟩ := hbase.exists_settled_back
    (h.integrity.insertIncome (Table.find?_isSome_iff.mp hmonth)) rfl rfl
    (recomputed_of_settled hend)
  obtain ⟨row, hrow, hmonthId⟩ : ∃ row,
      Table.find? reply.ledger.incomes (l.counters.income + 1) = some row ∧
        row.monthId = income.monthId := by
    rw [hledger]
    exact ⟨_, h.integrity.incomes.find?_append_next rfl, rfl⟩
  obtain ⟨undone, hundone, hfinal⟩ :=
    hback () (.incomeRemoved (l.counters.income + 1) income.monthId)
  rw [value_of_settled hend]
  refine ⟨undone, removeIncome_eq_ok.mpr ⟨row, hrow, ?_⟩, hfinal⟩
  rw [hmonthId, ← hundone, ← h.integrity.eraseIncome_insertIncome income amount, hledger]
  rfl

theorem removePayment_after_add (h : Sound l) {payment : NewPayment} {reply : Reply Int}
    (hreply : l.handle (.addPayment payment) = .ok reply) :
    reply.ledger.LeadsTo (.removePayment reply.value)
      { l with counters := { l.counters with payment := reply.value } } := by
  obtain ⟨_, hmonth, htype, cost, _, hend⟩ := addPayment_eq_ok.mp hreply
  have hbase : Sound
      { l with counters := { l.counters with payment := l.counters.payment + 1 } } := by
    apply h.of_counters <;> simp
  obtain ⟨f, hledger, hback⟩ := hbase.exists_settled_back
    (h.integrity.insertPayment (Table.find?_isSome_iff.mp hmonth) htype) rfl rfl
    (recomputed_of_settled hend)
  obtain ⟨row, hrow, hmonthId⟩ : ∃ row,
      Table.find? reply.ledger.payments (l.counters.payment + 1) = some row ∧
        row.monthId = payment.monthId := by
    rw [hledger]
    exact ⟨_, h.integrity.payments.find?_append_next rfl, rfl⟩
  obtain ⟨undone, hundone, hfinal⟩ :=
    hback () (.paymentRemoved (l.counters.payment + 1) payment.monthId)
  rw [value_of_settled hend]
  refine ⟨undone, removePayment_eq_ok.mpr ⟨row, hrow, ?_⟩, hfinal⟩
  rw [hmonthId, ← hundone, ← h.integrity.erasePayment_insertPayment payment cost, hledger]
  rfl

theorem removeSpend_after_add (h : Sound l) {spend : NewSpend} {reply : Reply Int}
    (hreply : l.handle (.addSpend spend) = .ok reply) :
    reply.ledger.LeadsTo (.removeSpend reply.value)
      { l with counters := { l.counters with spend := reply.value } } := by
  obtain ⟨_, day, hday, htype, cost, _, hend⟩ := addSpend_eq_ok.mp hreply
  have hmiddle : Integrity (l.insertSpend spend cost) :=
    h.integrity.insertSpend (Table.mem_numbers_of_find? hday) htype
  have hbase : Sound { l with counters := { l.counters with spend := l.counters.spend + 1 } } := by
    apply h.of_counters <;> simp
  obtain ⟨f, hledger, hback⟩ :=
    hbase.exists_settled_back hmiddle rfl rfl (recomputed_of_settled hend)
  obtain ⟨row, hrow, hdayId⟩ : ∃ row,
      Table.find? reply.ledger.spends (l.counters.spend + 1) = some row ∧
        row.dayId = spend.dayId := by
    rw [hledger]
    exact ⟨_, h.integrity.spends.find?_append_next rfl, rfl⟩
  have hfoundDay : Table.find? reply.ledger.days row.dayId = some (withBalance f.saldos day) := by
    rw [hledger, hdayId]
    exact hmiddle.find?_day_withFigures hday f
  obtain ⟨undone, hundone, hfinal⟩ :=
    hback () (.spendRemoved (l.counters.spend + 1) day.monthId)
  rw [value_of_settled hend]
  refine ⟨undone, removeSpend_eq_ok.mpr ⟨row, hrow, _, hfoundDay, ?_⟩, hfinal⟩
  rw [withBalance_monthId, ← hundone, ← h.integrity.eraseSpend_insertSpend spend cost, hledger]
  rfl

end Sound

/-! ## Editing back -/

instance (m : Money) (units : Int) : Decidable (l.HasValue m units) :=
  inferInstanceAs (Decidable ((l.money units).same m = true))

theorem hasValue_iff_hasUnits {m : Money} {units : Int} :
    l.HasValue m units ↔ m.HasUnits l.precision units := by
  rw [HasValue, Money.same_iff, Money.hasUnits_iff_value, eq_comm]
  rfl

/-- An edit that gives the amount of an entry again is valid and stores this amount. -/
theorem IsEntry.restored {policy : CostPolicy} {title notes : String} {units : Int}
    (h : IsEntry policy title notes units) (field : String) {m : Money}
    (hm : l.HasValue m units) :
    checkEntry none policy field (some m) = none ∧ l.units? (some m) = .ok (some units) := by
  have hunits := hasValue_iff_hasUnits.mp hm
  refine ⟨checkEntry_eq_none.mpr ⟨nofun, ?_⟩, ?_⟩
  · rintro _ ⟨⟩
    exact (CostPolicy.allows_units hunits).mp h.allowed
  · exact map_eq_ok.mpr ⟨units, units_eq_ok.mpr ⟨hunits, h.storable⟩, rfl⟩

namespace Integrity

variable {id : Int} {new old : Money} {policy : CostPolicy} {amount : Option Int} {f : Figures}

/-- Figures that were written meanwhile are not touched. -/
theorem updateIncome_back (h : Integrity l) {row : IncomeRow}
    (hrow : Table.find? l.incomes id = some row) :
    ((l.updateIncome ⟨id, none, none, some new⟩ amount).withFigures monthId f).updateIncome
      ⟨id, none, none, some old⟩ (some row.amount) = l.withFigures monthId f := by
  have hrestored := h.incomes.modify_back hrow
    (editedIncome ⟨id, none, none, some new⟩ amount)
    (editedIncome ⟨id, none, none, some old⟩ (some row.amount)) (fun _ => rfl) rfl
  simp only [Ledger.updateIncome, Ledger.withFigures, hrestored]

theorem updatePayment_back (h : Integrity l) {row : PaymentRow}
    (hrow : Table.find? l.payments id = some row) :
    ((l.updatePayment ⟨id, none, none, none, some new⟩ amount).withFigures monthId f).updatePayment
      ⟨id, none, none, none, some old⟩ (some row.cost) = l.withFigures monthId f := by
  have hrestored := h.payments.modify_back hrow
    (editedPayment ⟨id, none, none, none, some new⟩ amount)
    (editedPayment ⟨id, none, none, none, some old⟩ (some row.cost)) (fun _ => rfl) rfl
  simp only [Ledger.updatePayment, Ledger.withFigures, hrestored]

theorem updateSpend_back (h : Integrity l) {row : SpendRow}
    (hrow : Table.find? l.spends id = some row) :
    ((l.updateSpend ⟨id, none, none, none, some new, policy⟩ amount).withFigures monthId
      f).updateSpend ⟨id, none, none, none, some old, .any⟩ (some row.cost) =
        l.withFigures monthId f := by
  have hrestored := h.spends.modify_back hrow
    (editedSpend ⟨id, none, none, none, some new, policy⟩ amount)
    (editedSpend ⟨id, none, none, none, some old, .any⟩ (some row.cost)) (fun _ => rfl) rfl
  simp only [Ledger.updateSpend, Ledger.withFigures, hrestored]

end Integrity

namespace Sound

variable {new old : Money} {policy : CostPolicy} {reply : Reply Unit}

theorem editIncome_back (h : Sound l) (hvalid : Valid .any l) {row : IncomeRow}
    (hrow : row ∈ l.incomes) (hold : l.HasValue old row.amount)
    (hreply : l.handle (.editIncome ⟨row.id, none, none, some new⟩) = .ok reply) :
    reply.ledger.LeadsTo (.editIncome ⟨row.id, none, none, some old⟩) l := by
  obtain ⟨_, found, hfound, amount, _, hend⟩ := editIncome_eq_ok.mp hreply
  obtain rfl := h.integrity.incomes.eq_of_find? hfound hrow rfl
  obtain ⟨f, hledger, hback⟩ := h.exists_settled_back (h.integrity.updateIncome _ amount) rfl rfl
    (recomputed_of_edited hend)
  obtain ⟨hcheck, hunits⟩ := (hvalid.incomes row hrow).restored "income" hold
  obtain ⟨undone, hundone, hfinal⟩ := hback () (.incomeEdited row.id ["income"])
  rw [LeadsTo, hledger]
  refine ⟨undone, editIncome_eq_ok.mpr ⟨hcheck, _,
    h.integrity.incomes.find?_modify hfound fun _ => rfl, _, hunits, ?_⟩, hfinal⟩
  rw [h.integrity.updateIncome_back hfound]
  exact hundone

theorem editPayment_back (h : Sound l) (hvalid : Valid .any l) {row : PaymentRow}
    (hrow : row ∈ l.payments) (hold : l.HasValue old row.cost)
    (hreply : l.handle (.editPayment ⟨row.id, none, none, none, some new⟩) = .ok reply) :
    reply.ledger.LeadsTo (.editPayment ⟨row.id, none, none, none, some old⟩) l := by
  obtain ⟨_, found, hfound, htype, cost, _, hend⟩ := editPayment_eq_ok.mp hreply
  obtain rfl := h.integrity.payments.eq_of_find? hfound hrow rfl
  obtain ⟨f, hledger, hback⟩ := h.exists_settled_back (h.integrity.updatePayment cost htype) rfl rfl
    (recomputed_of_edited hend)
  obtain ⟨hcheck, hunits⟩ := (hvalid.payments row hrow).restored "cost" hold
  obtain ⟨undone, hundone, hfinal⟩ := hback () (.paymentEdited row.id ["cost"])
  rw [LeadsTo, hledger]
  refine ⟨undone, editPayment_eq_ok.mpr ⟨hcheck, _,
    h.integrity.payments.find?_modify hfound fun _ => rfl, .inl rfl, _, hunits, ?_⟩, hfinal⟩
  rw [h.integrity.updatePayment_back hfound]
  exact hundone

theorem editSpend_back (h : Sound l) (hvalid : Valid .any l) {row : SpendRow}
    (hrow : row ∈ l.spends) (hold : l.HasValue old row.cost)
    (hreply : l.handle (.editSpend ⟨row.id, none, none, none, some new, policy⟩) = .ok reply) :
    reply.ledger.LeadsTo (.editSpend ⟨row.id, none, none, none, some old, .any⟩) l := by
  obtain ⟨_, found, hfound, day, hday, htype, cost, _, hend⟩ := editSpend_eq_ok.mp hreply
  obtain rfl := h.integrity.spends.eq_of_find? hfound hrow rfl
  have hmiddle := h.integrity.updateSpend cost htype
  obtain ⟨f, hledger, hback⟩ :=
    h.exists_settled_back hmiddle rfl rfl (recomputed_of_edited hend)
  obtain ⟨hcheck, hunits⟩ := (hvalid.spends row hrow).restored "cost" hold
  obtain ⟨undone, hundone, hfinal⟩ := hback () (.spendEdited row.id ["cost"])
  rw [LeadsTo, hledger]
  refine ⟨undone, editSpend_eq_ok.mpr ⟨hcheck, _,
    h.integrity.spends.find?_modify hfound fun _ => rfl, _, hmiddle.find?_day_withFigures hday f,
    .inl rfl, _, hunits, ?_⟩, hfinal⟩
  rw [h.integrity.updateSpend_back hfound, withBalance_monthId]
  exact hundone

end Sound

/-! ## Every run -/

/-- After every run of a new ledger, what a request adds is removed under the answered number, and
the ledger is as before but for the number that was given out. An edit of an amount alone is taken
back by another that gives the old amount, at any precision, and the ledger is as before. -/
theorem undo_run (currency : Currency) (operations : List Operation) :
    let l := (Ledger.empty currency).run operations
    (∀ income reply, l.handle (.addIncome income) = .ok reply →
      reply.ledger.LeadsTo (.removeIncome reply.value)
        { l with counters := { l.counters with income := reply.value } }) ∧
    (∀ payment reply, l.handle (.addPayment payment) = .ok reply →
      reply.ledger.LeadsTo (.removePayment reply.value)
        { l with counters := { l.counters with payment := reply.value } }) ∧
    (∀ spend reply, l.handle (.addSpend spend) = .ok reply →
      reply.ledger.LeadsTo (.removeSpend reply.value)
        { l with counters := { l.counters with spend := reply.value } }) ∧
    (∀ row ∈ l.incomes, ∀ new old reply, l.HasValue old row.amount →
      l.handle (.editIncome ⟨row.id, none, none, some new⟩) = .ok reply →
      reply.ledger.LeadsTo (.editIncome ⟨row.id, none, none, some old⟩) l) ∧
    (∀ row ∈ l.payments, ∀ new old reply, l.HasValue old row.cost →
      l.handle (.editPayment ⟨row.id, none, none, none, some new⟩) = .ok reply →
      reply.ledger.LeadsTo (.editPayment ⟨row.id, none, none, none, some old⟩) l) ∧
    ∀ row ∈ l.spends, ∀ new old policy reply, l.HasValue old row.cost →
      l.handle (.editSpend ⟨row.id, none, none, none, some new, policy⟩) = .ok reply →
      reply.ledger.LeadsTo (.editSpend ⟨row.id, none, none, none, some old, .any⟩) l := by
  intro l
  have h : Sound l := (Sound.empty currency).run operations
  have hvalid : Valid .any l := Valid.any_run currency operations
  exact ⟨fun _ _ hreply => h.removeIncome_after_add hreply,
    fun _ _ hreply => h.removePayment_after_add hreply,
    fun _ _ hreply => h.removeSpend_after_add hreply,
    fun _ hrow _ _ _ hold hreply => h.editIncome_back hvalid hrow hold hreply,
    fun _ hrow _ _ _ hold hreply => h.editPayment_back hvalid hrow hold hreply,
    fun _ hrow _ _ _ _ hold hreply => h.editSpend_back hvalid hrow hold hreply⟩

/-- A month with one entry of each kind, in which there is room for one more minor unit to be
spent. -/
def largeDeposit : List Operation :=
  [⟨.openMonth 2024 2⟩, ⟨.addIncome ⟨1, "Pay", ⟨2900, 2⟩, ""⟩⟩,
    ⟨.addPayment ⟨1, "Rent", ⟨2900, 2⟩, 0, ""⟩⟩,
    ⟨.addSpend ⟨29, "Deposit", ⟨storageLimit - 2901, 2⟩, 0, "", .positive⟩⟩]

/-- The last minor unit is paid or spent and taken back. The edits give fewer digits than the
amounts have, and those that take them back give more. -/
theorem undo_largeDeposit :
    let l := (Ledger.empty .gbp).run largeDeposit
    ((∃ reply, l.handle (.addIncome ⟨1, "Gift", ⟨5, 1⟩, ""⟩) = .ok reply ∧
        reply.ledger.LeadsTo (.removeIncome reply.value)
          { l with counters := { l.counters with income := reply.value } }) ∧
      (∃ reply, l.handle (.addPayment ⟨1, "Phone", ⟨1, 2⟩, 0, "mobile"⟩) = .ok reply ∧
        reply.ledger.LeadsTo (.removePayment reply.value)
          { l with counters := { l.counters with payment := reply.value } }) ∧
      ∃ reply, l.handle (.addSpend ⟨3, "Tea", ⟨1, 2⟩, 0, "", .positive⟩) = .ok reply ∧
        reply.ledger.LeadsTo (.removeSpend reply.value)
          { l with counters := { l.counters with spend := reply.value } }) ∧
    (∃ reply, l.handle (.editIncome ⟨1, none, none, some ⟨7, 0⟩⟩) = .ok reply ∧
      reply.ledger.LeadsTo (.editIncome ⟨1, none, none, some ⟨29000, 3⟩⟩) l) ∧
    (∃ reply, l.handle (.editPayment ⟨1, none, none, none, some ⟨7, 0⟩⟩) = .ok reply ∧
      reply.ledger.LeadsTo (.editPayment ⟨1, none, none, none, some ⟨29000, 3⟩⟩) l) ∧
    ∃ reply, l.handle (.editSpend ⟨1, none, none, none, some ⟨-7, 0⟩, .any⟩) = .ok reply ∧
      reply.ledger.LeadsTo (.editSpend ⟨1, none, none, none,
        some ⟨(storageLimit - 2901) * 10, 3⟩, .any⟩) l := by
  intro l
  have hincome : ⟨1, 1, "Pay", "", 2900⟩ ∈ l.incomes := by decide +kernel
  have hpayment : ⟨1, 1, 0, "Rent", "", 2900⟩ ∈ l.payments := by decide +kernel
  have hspend : ⟨1, 29, 0, "Deposit", "", storageLimit - 2901⟩ ∈ l.spends := by decide +kernel
  have hsucceeds : (∃ reply, l.handle (.addIncome ⟨1, "Gift", ⟨5, 1⟩, ""⟩) = .ok reply) ∧
      (∃ reply, l.handle (.addPayment ⟨1, "Phone", ⟨1, 2⟩, 0, "mobile"⟩) = .ok reply) ∧
      (∃ reply, l.handle (.addSpend ⟨3, "Tea", ⟨1, 2⟩, 0, "", .positive⟩) = .ok reply) ∧
      (∃ reply, l.handle (.editIncome ⟨1, none, none, some ⟨7, 0⟩⟩) = .ok reply) ∧
      (∃ reply, l.handle (.editPayment ⟨1, none, none, none, some ⟨7, 0⟩⟩) = .ok reply) ∧
      ∃ reply, l.handle (.editSpend ⟨1, none, none, none, some ⟨-7, 0⟩, .any⟩) = .ok reply := by
    decide +kernel
  obtain ⟨⟨r₁, h₁⟩, ⟨r₂, h₂⟩, ⟨r₃, h₃⟩, ⟨r₄, h₄⟩, ⟨r₅, h₅⟩, ⟨r₆, h₆⟩⟩ := hsucceeds
  obtain ⟨hremoveIncome, hremovePayment, hremoveSpend, heditIncome, heditPayment, heditSpend⟩ :=
    undo_run .gbp largeDeposit
  dsimp only [l]
  refine ⟨⟨⟨r₁, h₁, hremoveIncome _ r₁ h₁⟩, ⟨r₂, h₂, hremovePayment _ r₂ h₂⟩,
    ⟨r₃, h₃, hremoveSpend _ r₃ h₃⟩⟩, ⟨r₄, h₄, ?_⟩, ⟨r₅, h₅, ?_⟩, ⟨r₆, h₆, ?_⟩⟩
  · exact heditIncome _ hincome _ _ r₄ (by decide +kernel) h₄
  · exact heditPayment _ hpayment _ _ r₅ (by decide +kernel) h₅
  · exact heditSpend _ hspend _ _ _ r₆ (by decide +kernel) h₆

end Allowance.Ledger
