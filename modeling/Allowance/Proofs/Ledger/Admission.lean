import Allowance.Proofs.Ledger.Integrity
import Allowance.Proofs.Money.Units

/-!
# Which changes of entries succeed

A request about an income, a monthly payment or a spend succeeds exactly if it is admitted: it is
valid, what it refers to exists, its amount is stored without loss, and all figures of the month can
be stored as they would be afterwards. Any other such request fails and leaves the ledger as it was,
although it may only be the balance of some day that does not fit any more.
-/

namespace Allowance.Ledger

open Outcome

variable {l : Ledger}

/-- What an amount is stored as: the minor units of its value, if they fit the storage. -/
def StoresAs (l : Ledger) (m : Money) (units : Int) : Prop :=
  m.HasUnits l.precision units ∧ IsStorable units

theorem units_eq_ok {m : Money} {units : Int} : l.units m = .ok units ↔ l.StoresAs m units := by
  simp only [Ledger.units, bind_eq_ok, pure_eq_ok, requireStorable_eq_ok, Money.minorUnits_eq_ok,
    StoresAs]
  constructor
  · rintro ⟨_, hunits, _, hstorable, rfl⟩
    exact ⟨hunits, hstorable⟩
  · rintro ⟨hunits, hstorable⟩
    exact ⟨units, hunits, (), hstorable, rfl⟩

/-- All figures of a month can be stored, as its entries give them. -/
def CanSettle (l : Ledger) (monthId : Int) : Prop :=
  ∀ row ∈ l.months, row.id = monthId → (l.computed row).AreStorable

/-- An amount that an edit gives can be stored, and so can the figures of the month after it. -/
def AdmitsAmount (l : Ledger) (given : Option Money) (update : Option Int → Ledger)
    (monthId : Int) : Prop :=
  ∀ m, given = some m → ∃ units, l.StoresAs m units ∧ (update (some units)).CanSettle monthId

/-- Everything that a change of entries needs in order to succeed. -/
def Admits (l : Ledger) {α : Type} : Request α → Prop
  | .addIncome income =>
    income.rejection? = none ∧ income.monthId ∈ Table.numbers l.months ∧
      ∃ units, l.StoresAs income.amount units ∧
        (l.insertIncome income units).CanSettle income.monthId
  | .editIncome edit =>
    edit.rejection? = none ∧ ∃ row ∈ l.incomes, row.id = edit.id ∧
      l.AdmitsAmount edit.amount (l.updateIncome edit) row.monthId
  | .removeIncome id =>
    ∃ row ∈ l.incomes, row.id = id ∧ (l.eraseIncome id).CanSettle row.monthId
  | .addPayment payment =>
    payment.rejection? = none ∧ payment.monthId ∈ Table.numbers l.months ∧
      l.KnowsType payment.typeId ∧
      ∃ units, l.StoresAs payment.cost units ∧
        (l.insertPayment payment units).CanSettle payment.monthId
  | .editPayment edit =>
    edit.rejection? = none ∧ ∃ row ∈ l.payments, row.id = edit.id ∧
      (∀ typeId, edit.typeId = some typeId → l.KnowsType typeId) ∧
      l.AdmitsAmount edit.cost (l.updatePayment edit) row.monthId
  | .removePayment id =>
    ∃ row ∈ l.payments, row.id = id ∧ (l.erasePayment id).CanSettle row.monthId
  | .addSpend spend =>
    spend.rejection? = none ∧ ∃ day ∈ l.days, day.id = spend.dayId ∧
      l.KnowsType spend.typeId ∧
      ∃ units, l.StoresAs spend.cost units ∧ (l.insertSpend spend units).CanSettle day.monthId
  | .editSpend edit =>
    edit.rejection? = none ∧ ∃ row ∈ l.spends, row.id = edit.id ∧
      ∃ day ∈ l.days, day.id = row.dayId ∧
      (∀ typeId, edit.typeId = some typeId → l.KnowsType typeId) ∧
      l.AdmitsAmount edit.cost (l.updateSpend edit) day.monthId
  | .removeSpend id =>
    ∃ row ∈ l.spends, row.id = id ∧
      ∃ day ∈ l.days, day.id = row.dayId ∧ (l.eraseSpend id).CanSettle day.monthId
  | _ => False

theorem knowsType_getD {given : Option Int} :
    l.KnowsType (given.getD SpendType.noType) ↔ ∀ id, given = some id → l.KnowsType id := by
  cases given with
  | none => simp [KnowsType]
  | some id => simp

/-! ## The last step of a transaction -/

variable {monthId : Int}

theorem Integrity.exists_settled_iff (h : Integrity l) (hmonth : monthId ∈ Table.numbers l.months)
    {α : Type} (value : α) (entry : LogEntry) :
    (∃ reply, l.settled monthId value entry = .ok reply) ↔ l.CanSettle monthId := by
  obtain ⟨row, hrow, rfl⟩ := Table.mem_numbers.mp hmonth
  constructor
  · rintro ⟨reply, hreply⟩ other hother hid
    obtain rfl := h.months.eq_of_number hother hrow hid
    exact ((h.recomputed_iff_storable hrow).mp (recomputed_of_settled hreply)).1
  · intro hcan
    obtain ⟨month, hsettle⟩ := (h.recomputed_iff_storable hrow).mpr ⟨hcan row hrow rfl, rfl⟩
    exact ⟨_, settled_eq_ok.mpr ⟨_, month, hsettle, rfl⟩⟩

/-- The end of an edit, from the amount on that it gives. -/
theorem exists_edited_iff (given : Option Money) {update : Option Int → Ledger}
    (hupdate : ∀ amount, Integrity (update amount) ∧
      monthId ∈ Table.numbers (update amount).months) (entry : LogEntry) :
    (∃ amount, l.units? given = .ok amount ∧
      ∃ reply, (update amount).edited monthId given entry = .ok reply) ↔
      l.AdmitsAmount given update monthId := by
  cases given with
  -- Without an amount nothing is recomputed, so no figure has to fit.
  | none => simp [units?, edited, AdmitsAmount]
  | some m =>
      have hsettled (amount : Option Int) :=
        (hupdate amount).1.exists_settled_iff (hupdate amount).2 () entry
      simp [units?, edited, AdmitsAmount, map_eq_ok, units_eq_ok, hsettled]

/-! ## One equivalence for each change -/

namespace Integrity

theorem addIncome_iff (h : Integrity l) {income : NewIncome} :
    (∃ reply, l.handle (.addIncome income) = .ok reply) ↔ l.Admits (.addIncome income) := by
  simp only [addIncome_eq_ok, Table.find?_isSome_iff, units_eq_ok]
  constructor
  · rintro ⟨reply, hvalid, hmonth, units, hunits, hreply⟩
    exact ⟨hvalid, hmonth, units, hunits,
      ((h.insertIncome hmonth).exists_settled_iff hmonth _ _).mp ⟨reply, hreply⟩⟩
  · rintro ⟨hvalid, hmonth, units, hunits, hcan⟩
    obtain ⟨reply, hreply⟩ := ((h.insertIncome hmonth).exists_settled_iff hmonth _ _).mpr hcan
    exact ⟨reply, hvalid, hmonth, units, hunits, hreply⟩

theorem editIncome_iff (h : Integrity l) {edit : IncomeEdit} :
    (∃ reply, l.handle (.editIncome edit) = .ok reply) ↔ l.Admits (.editIncome edit) := by
  have hend {row : IncomeRow} (hrow : row ∈ l.incomes) :=
    exists_edited_iff (l := l) edit.amount
      fun amount => ⟨h.updateIncome edit amount, h.incomeMonth row hrow⟩
  simp only [editIncome_eq_ok, h.incomes.find?_eq_some_iff]
  constructor
  · rintro ⟨reply, hvalid, row, ⟨hrow, hid⟩, amount, hamount, hreply⟩
    exact ⟨hvalid, row, hrow, hid, (hend hrow _).mp ⟨amount, hamount, reply, hreply⟩⟩
  · rintro ⟨hvalid, row, hrow, hid, hadmits⟩
    obtain ⟨amount, hamount, reply, hreply⟩ := (hend hrow _).mpr hadmits
    exact ⟨reply, hvalid, row, ⟨hrow, hid⟩, amount, hamount, hreply⟩

theorem removeIncome_iff (h : Integrity l) {id : Int} :
    (∃ reply, l.handle (.removeIncome id) = .ok reply) ↔ l.Admits (.removeIncome id) := by
  have hend {row : IncomeRow} (hrow : row ∈ l.incomes) :=
    (h.eraseIncome id).exists_settled_iff (h.incomeMonth row hrow) ()
  simp only [removeIncome_eq_ok, h.incomes.find?_eq_some_iff]
  constructor
  · rintro ⟨reply, row, ⟨hrow, hid⟩, hreply⟩
    exact ⟨row, hrow, hid, (hend hrow _).mp ⟨reply, hreply⟩⟩
  · rintro ⟨row, hrow, hid, hcan⟩
    obtain ⟨reply, hreply⟩ := (hend hrow _).mpr hcan
    exact ⟨reply, row, ⟨hrow, hid⟩, hreply⟩

theorem addPayment_iff (h : Integrity l) {payment : NewPayment} :
    (∃ reply, l.handle (.addPayment payment) = .ok reply) ↔ l.Admits (.addPayment payment) := by
  simp only [addPayment_eq_ok, Table.find?_isSome_iff, units_eq_ok]
  constructor
  · rintro ⟨reply, hvalid, hmonth, htype, units, hunits, hreply⟩
    exact ⟨hvalid, hmonth, htype, units, hunits,
      ((h.insertPayment hmonth htype).exists_settled_iff hmonth _ _).mp ⟨reply, hreply⟩⟩
  · rintro ⟨hvalid, hmonth, htype, units, hunits, hcan⟩
    obtain ⟨reply, hreply⟩ :=
      ((h.insertPayment hmonth htype).exists_settled_iff hmonth _ _).mpr hcan
    exact ⟨reply, hvalid, hmonth, htype, units, hunits, hreply⟩

theorem editPayment_iff (h : Integrity l) {edit : PaymentEdit} :
    (∃ reply, l.handle (.editPayment edit) = .ok reply) ↔ l.Admits (.editPayment edit) := by
  have hend {row : PaymentRow} (hrow : row ∈ l.payments)
      (htype : ∀ typeId, edit.typeId = some typeId → l.KnowsType typeId) :=
    exists_edited_iff (l := l) edit.cost
      fun cost => ⟨h.updatePayment cost (knowsType_getD.mpr htype), h.paymentMonth row hrow⟩
  simp only [editPayment_eq_ok, h.payments.find?_eq_some_iff, knowsType_getD]
  constructor
  · rintro ⟨reply, hvalid, row, ⟨hrow, hid⟩, htype, cost, hcost, hreply⟩
    exact ⟨hvalid, row, hrow, hid, htype, (hend hrow htype _).mp ⟨cost, hcost, reply, hreply⟩⟩
  · rintro ⟨hvalid, row, hrow, hid, htype, hadmits⟩
    obtain ⟨cost, hcost, reply, hreply⟩ := (hend hrow htype _).mpr hadmits
    exact ⟨reply, hvalid, row, ⟨hrow, hid⟩, htype, cost, hcost, hreply⟩

theorem removePayment_iff (h : Integrity l) {id : Int} :
    (∃ reply, l.handle (.removePayment id) = .ok reply) ↔ l.Admits (.removePayment id) := by
  have hend {row : PaymentRow} (hrow : row ∈ l.payments) :=
    (h.erasePayment id).exists_settled_iff (h.paymentMonth row hrow) ()
  simp only [removePayment_eq_ok, h.payments.find?_eq_some_iff]
  constructor
  · rintro ⟨reply, row, ⟨hrow, hid⟩, hreply⟩
    exact ⟨row, hrow, hid, (hend hrow _).mp ⟨reply, hreply⟩⟩
  · rintro ⟨row, hrow, hid, hcan⟩
    obtain ⟨reply, hreply⟩ := (hend hrow _).mpr hcan
    exact ⟨reply, row, ⟨hrow, hid⟩, hreply⟩

theorem addSpend_iff (h : Integrity l) {spend : NewSpend} :
    (∃ reply, l.handle (.addSpend spend) = .ok reply) ↔ l.Admits (.addSpend spend) := by
  have hend {day : DayRow} (hday : day ∈ l.days) (hid : day.id = spend.dayId)
      (htype : l.KnowsType spend.typeId) {units : Int} (value : Int) (entry : LogEntry) :
      (∃ reply, (l.insertSpend spend units).settled day.monthId value entry = .ok reply) ↔ _ :=
    (h.insertSpend (hid ▸ Table.number_mem hday) htype).exists_settled_iff (h.dayMonth day hday)
      value entry
  simp only [addSpend_eq_ok, h.days.find?_eq_some_iff, units_eq_ok]
  constructor
  · rintro ⟨reply, hvalid, day, ⟨hday, hid⟩, htype, units, hunits, hreply⟩
    exact ⟨hvalid, day, hday, hid, htype, units, hunits,
      (hend hday hid htype _ _).mp ⟨reply, hreply⟩⟩
  · rintro ⟨hvalid, day, hday, hid, htype, units, hunits, hcan⟩
    obtain ⟨reply, hreply⟩ := (hend hday hid htype _ _).mpr hcan
    exact ⟨reply, hvalid, day, ⟨hday, hid⟩, htype, units, hunits, hreply⟩

theorem editSpend_iff (h : Integrity l) {edit : SpendEdit} :
    (∃ reply, l.handle (.editSpend edit) = .ok reply) ↔ l.Admits (.editSpend edit) := by
  have hend {day : DayRow} (hday : day ∈ l.days)
      (htype : ∀ typeId, edit.typeId = some typeId → l.KnowsType typeId) :=
    exists_edited_iff (l := l) edit.cost
      fun cost => ⟨h.updateSpend cost (knowsType_getD.mpr htype), h.dayMonth day hday⟩
  simp only [editSpend_eq_ok, h.spends.find?_eq_some_iff, h.days.find?_eq_some_iff,
    knowsType_getD]
  constructor
  · rintro ⟨reply, hvalid, row, ⟨hrow, hid⟩, day, ⟨hday, hdayId⟩, htype, cost, hcost, hreply⟩
    exact ⟨hvalid, row, hrow, hid, day, hday, hdayId, htype,
      (hend hday htype _).mp ⟨cost, hcost, reply, hreply⟩⟩
  · rintro ⟨hvalid, row, hrow, hid, day, hday, hdayId, htype, hadmits⟩
    obtain ⟨cost, hcost, reply, hreply⟩ := (hend hday htype _).mpr hadmits
    exact ⟨reply, hvalid, row, ⟨hrow, hid⟩, day, ⟨hday, hdayId⟩, htype, cost, hcost, hreply⟩

theorem removeSpend_iff (h : Integrity l) {id : Int} :
    (∃ reply, l.handle (.removeSpend id) = .ok reply) ↔ l.Admits (.removeSpend id) := by
  have hend {day : DayRow} (hday : day ∈ l.days) :=
    (h.eraseSpend id).exists_settled_iff (h.dayMonth day hday) ()
  simp only [removeSpend_eq_ok, h.spends.find?_eq_some_iff, h.days.find?_eq_some_iff]
  constructor
  · rintro ⟨reply, row, ⟨hrow, hid⟩, day, ⟨hday, hdayId⟩, hreply⟩
    exact ⟨row, hrow, hid, day, hday, hdayId, (hend hday _).mp ⟨reply, hreply⟩⟩
  · rintro ⟨row, hrow, hid, day, hday, hdayId, hcan⟩
    obtain ⟨reply, hreply⟩ := (hend hday _).mpr hcan
    exact ⟨reply, row, ⟨hrow, hid⟩, day, ⟨hday, hdayId⟩, hreply⟩

end Integrity

/-! ## Every run -/

theorem Integrity.exists_handle_iff (h : Integrity l) {α : Type} {request : Request α}
    (hchanges : request.ChangesEntries) :
    (∃ reply, l.handle request = .ok reply) ↔ l.Admits request := by
  cases request with
  | addIncome income => exact h.addIncome_iff
  | editIncome edit => exact h.editIncome_iff
  | removeIncome id => exact h.removeIncome_iff
  | addPayment payment => exact h.addPayment_iff
  | editPayment edit => exact h.editPayment_iff
  | removePayment id => exact h.removePayment_iff
  | addSpend spend => exact h.addSpend_iff
  | editSpend edit => exact h.editSpend_iff
  | removeSpend id => exact h.removeSpend_iff
  | _ => cases hchanges

/-- After every run of a new ledger, a change of entries succeeds exactly if the ledger admits it.
If the ledger does not, the change fails, and all tables and counters are as they were. -/
theorem handle_run_iff_admits (currency : Currency) (operations : List Operation) {α : Type}
    (request : Request α) (hchanges : request.ChangesEntries) :
    let l := (Ledger.empty currency).run operations
    ((∃ reply, l.handle request = .ok reply) ↔ l.Admits request) ∧
      (¬ l.Admits request →
        (∃ why, l.handle request = .error why) ∧ l.after request = l) := by
  intro l
  have h : Integrity l := (Integrity.empty currency).run operations
  have hiff := h.exists_handle_iff hchanges
  refine ⟨hiff, fun hnot => ?_⟩
  cases hreply : l.handle request with
  | ok reply => exact absurd (hiff.mp ⟨reply, hreply⟩) hnot
  | error why => exact ⟨⟨why, rfl⟩, after_of_error hreply⟩

/-- A large cost on the first day that a refund on the same day makes up for, and as large a cost
on the last day. -/
def refundedSpend : List Operation :=
  [⟨.openMonth 2024 2⟩, ⟨.addIncome ⟨1, "Pay", ⟨29, 2⟩, ""⟩⟩,
    ⟨.addSpend ⟨1, "Deposit", ⟨storageLimit - 1, 2⟩, 0, "", .positive⟩⟩,
    ⟨.addSpend ⟨1, "Deposit", ⟨1 - storageLimit, 2⟩, 0, "", .any⟩⟩,
    ⟨.addSpend ⟨29, "Deposit", ⟨storageLimit - 1, 2⟩, 0, "", .positive⟩⟩]

/-- Without the first cost all totals would fit, but not the balance of the first day. -/
theorem admits_refundedSpend :
    let l := (Ledger.empty .gbp).run refundedSpend
    (l.spends.length = 3 ∧ ¬ l.Admits (.removeSpend 1) ∧ l.after (.removeSpend 1) = l) ∧
      l.Admits (.removeSpend 3) := by
  intro l
  obtain ⟨hfirst, hkept⟩ := handle_run_iff_admits .gbp refundedSpend (.removeSpend 1) trivial
  obtain ⟨hlast, _⟩ := handle_run_iff_admits .gbp refundedSpend (.removeSpend 3) trivial
  have hfails : ¬ ∃ reply, l.handle (.removeSpend 1) = .ok reply := by
    decide +kernel
  have hsucceeds : ∃ reply, l.handle (.removeSpend 3) = .ok reply := by
    decide +kernel
  have hlength : l.spends.length = 3 := by
    decide +kernel
  have hnot : ¬ l.Admits (.removeSpend 1) := mt hfirst.mpr hfails
  exact ⟨⟨hlength, hnot, (hkept hnot).2⟩, hlast.mp hsucceeds⟩

end Allowance.Ledger
