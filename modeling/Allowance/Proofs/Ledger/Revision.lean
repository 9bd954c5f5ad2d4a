import Mathlib.Logic.Basic
import Allowance.Proofs.Ledger.Run
import Allowance.Proofs.Outcome

/-!
# What a request does to a ledger

A request that succeeds revises the entered rows of at most one table, and opens a month together
with its days, or recomputes one month afterwards. `Revision` lists the revisions with everything
that is checked before each of them, and `handle_eq_ok` says that there are no others. Later proofs
split on this list and never look into a transaction again.
-/

namespace Allowance.Ledger

open Outcome

/-- The change that a request makes to the entered rows, and the month that it has to recompute. -/
inductive Revision (l : Ledger) : Ledger → Option Int → Prop where
  | unchanged : Revision l l none
  | monthOpened (year month : Int) (days : Nat) (hmonth : 1 ≤ month ∧ month ≤ 12)
      (hfree : l.findMonth? year month = none)
      (hdays : Calendar.daysInMonth year month = .ok days) :
      Revision l (l.insertMonth year month days) none
  | incomeAdded (income : NewIncome) (amount : Int) (hvalid : income.rejection? = none)
      (hmonth : ∃ month, Table.find? l.months income.monthId = some month)
      (hamount : l.units income.amount = .ok amount) :
      Revision l (l.insertIncome income amount) (some income.monthId)
  | incomeEdited (edit : IncomeEdit) (amount : Option Int) (row : IncomeRow)
      (hvalid : edit.rejection? = none) (hrow : Table.find? l.incomes edit.id = some row)
      (hamount : l.units? edit.amount = .ok amount) :
      Revision l (l.updateIncome edit amount) (edit.amount.map fun _ => row.monthId)
  | incomeRemoved (id : Int) (row : IncomeRow) (hrow : Table.find? l.incomes id = some row) :
      Revision l (l.eraseIncome id) (some row.monthId)
  | paymentAdded (payment : NewPayment) (cost : Int) (hvalid : payment.rejection? = none)
      (hmonth : ∃ month, Table.find? l.months payment.monthId = some month)
      (htype : l.KnowsType payment.typeId) (hcost : l.units payment.cost = .ok cost) :
      Revision l (l.insertPayment payment cost) (some payment.monthId)
  | paymentEdited (edit : PaymentEdit) (cost : Option Int) (row : PaymentRow)
      (hvalid : edit.rejection? = none) (hrow : Table.find? l.payments edit.id = some row)
      (htype : l.KnowsType (edit.typeId.getD SpendType.noType))
      (hcost : l.units? edit.cost = .ok cost) :
      Revision l (l.updatePayment edit cost) (edit.cost.map fun _ => row.monthId)
  | paymentRemoved (id : Int) (row : PaymentRow) (hrow : Table.find? l.payments id = some row) :
      Revision l (l.erasePayment id) (some row.monthId)
  | spendAdded (spend : NewSpend) (cost : Int) (day : DayRow) (hvalid : spend.rejection? = none)
      (hday : Table.find? l.days spend.dayId = some day)
      (htype : l.KnowsType spend.typeId) (hcost : l.units spend.cost = .ok cost) :
      Revision l (l.insertSpend spend cost) (some day.monthId)
  | spendEdited (edit : SpendEdit) (cost : Option Int) (row : SpendRow) (day : DayRow)
      (hvalid : edit.rejection? = none) (hrow : Table.find? l.spends edit.id = some row)
      (hday : Table.find? l.days row.dayId = some day)
      (htype : l.KnowsType (edit.typeId.getD SpendType.noType))
      (hcost : l.units? edit.cost = .ok cost) :
      Revision l (l.updateSpend edit cost) (edit.cost.map fun _ => day.monthId)
  | spendRemoved (id : Int) (row : SpendRow) (day : DayRow)
      (hrow : Table.find? l.spends id = some row)
      (hday : Table.find? l.days row.dayId = some day) :
      Revision l (l.eraseSpend id) (some day.monthId)
  | typeAdded (type : NewSpendType) (hvalid : type.rejection? = none)
      (hparent : l.KnowsType type.parent) :
      Revision l (l.insertType type) none
  | typeEdited (edit : SpendTypeEdit) (type : SpendType) (hvalid : edit.rejection? = none)
      (htype : Table.find? l.types edit.id = some type)
      (hparent : ∀ parent, edit.parent = some parent → l.requireParent edit.id parent = .ok ()) :
      Revision l (l.updateType edit) none
  | typeRemoved (id : Int) (type : SpendType) (htype : Table.find? l.types id = some type)
      (hunused : l.usage? id = none) :
      Revision l (l.eraseType id) none

/-- The recomputation that a revision asks for, of one month or of none. -/
def Recomputed (l : Ledger) (target : Option Int) (final : Ledger) : Prop :=
  match target with
  | some monthId => ∃ month, l.settle monthId = .ok (final, month)
  | none => final = l

/-- The request adds, edits or removes an income, a monthly payment or a spend. -/
def Request.ChangesEntries {α : Type} : Request α → Prop
  | .addIncome _ | .editIncome _ | .removeIncome _ => True
  | .addPayment _ | .editPayment _ | .removePayment _ => True
  | .addSpend _ | .editSpend _ | .removeSpend _ => True
  | _ => False

/-! ## The last step of a transaction -/

theorem settled_eq_ok {α : Type} {l : Ledger} {monthId : Int} {value : α} {entry : LogEntry}
    {reply : Reply α} :
    l.settled monthId value entry = .ok reply ↔
      ∃ final month, l.settle monthId = .ok (final, month) ∧
        reply = ⟨value, final, [recomputed month, entry]⟩ := by
  unfold settled
  simp only [bind_eq_ok, pure_eq_ok]
  constructor
  · rintro ⟨⟨final, month⟩, hsettle, hreply⟩
    exact ⟨final, month, hsettle, hreply⟩
  · rintro ⟨final, month, hsettle, hreply⟩
    exact ⟨(final, month), hsettle, hreply⟩

theorem recomputed_of_settled {α : Type} {l : Ledger} {monthId : Int} {value : α}
    {entry : LogEntry} {reply : Reply α} (h : l.settled monthId value entry = .ok reply) :
    Recomputed l (some monthId) reply.ledger := by
  obtain ⟨final, month, hsettle, rfl⟩ := settled_eq_ok.mp h
  exact ⟨month, hsettle⟩

theorem value_of_settled {α : Type} {l : Ledger} {monthId : Int} {value : α} {entry : LogEntry}
    {reply : Reply α} (h : l.settled monthId value entry = .ok reply) : reply.value = value := by
  obtain ⟨final, month, hsettle, rfl⟩ := settled_eq_ok.mp h
  rfl

theorem recomputed_of_edited {l : Ledger} {monthId : Int} {amount : Option Money}
    {entry : LogEntry} {reply : Reply Unit} (h : l.edited monthId amount entry = .ok reply) :
    Recomputed l (amount.map fun _ => monthId) reply.ledger := by
  cases amount with
  | some m => exact recomputed_of_settled h
  | none =>
      cases h
      rfl

/-- A recomputation writes to months and days only. -/
theorem Recomputed.exists_eq {l final : Ledger} {target : Option Int}
    (h : Recomputed l target final) : ∃ months days, final = { l with months, days } := by
  cases target with
  | none => exact ⟨l.months, l.days, h⟩
  | some monthId =>
      obtain ⟨month, hsettle⟩ := h
      simp only [settle, saveMonth, bind_eq_ok, pure_eq_ok] at hsettle
      obtain ⟨_, _, _, _, _, ⟨_, _, _, _, _, _, _, _, _, _, rfl⟩, hend⟩ := hsettle
      cases hend
      exact ⟨_, _, rfl⟩

/-! ## One equivalence for each transaction -/

variable {l : Ledger}

theorem requireMonthNumber_eq_ok {month : Int} {u : Unit} :
    requireMonthNumber month = .ok u ↔ 1 ≤ month ∧ month ≤ 12 := by
  unfold requireMonthNumber
  split
  next hout => simp; omega
  next hin => simp; omega

theorem openMonth_eq_ok {year month : Int} {reply : Reply Int} :
    l.handle (.openMonth year month) = .ok reply ↔
      (1 ≤ month ∧ month ≤ 12) ∧ IsStorable year ∧
      ((∃ row, l.findMonth? year month = some row ∧ reply = l.answer row.id) ∨
        (l.findMonth? year month = none ∧ ∃ days, Calendar.daysInMonth year month = .ok days ∧
          reply = ⟨l.counters.month + 1, l.insertMonth year month days,
            [.monthInitialized (l.counters.month + 1) year month]⟩)) := by
  rw [handle_openMonth]
  simp only [bind_eq_ok, requireMonthNumber_eq_ok, requireStorable_eq_ok, exists_and_left,
    exists_const]
  refine and_congr_right fun hmonth => and_congr_right fun hyear => ?_
  cases hfind : l.findMonth? year month with
  | some row => simp [-bind_pure_comp, pure_eq_ok]
  | none => simp [-bind_pure_comp, bind_eq_ok, pure_eq_ok]

theorem addIncome_eq_ok {income : NewIncome} {reply : Reply Int} :
    l.handle (.addIncome income) = .ok reply ↔
      income.rejection? = none ∧ (∃ month, Table.find? l.months income.monthId = some month) ∧
      ∃ amount, l.units income.amount = .ok amount ∧
        (l.insertIncome income amount).settled income.monthId (l.counters.income + 1)
          (.incomeAdded (l.counters.income + 1) income.monthId income.amount) = .ok reply := by
  simp [handle_addIncome, bind_eq_ok, refuse_eq_ok, require_eq_ok]

theorem editIncome_eq_ok {edit : IncomeEdit} {reply : Reply Unit} :
    l.handle (.editIncome edit) = .ok reply ↔
      edit.rejection? = none ∧ ∃ row, Table.find? l.incomes edit.id = some row ∧
      ∃ amount, l.units? edit.amount = .ok amount ∧
        (l.updateIncome edit amount).edited row.monthId edit.amount
          (.incomeEdited edit.id (givenFields [("income", edit.amount.isSome),
            ("notes", edit.notes.isSome), ("title", edit.title.isSome)])) = .ok reply := by
  simp [handle_editIncome, bind_eq_ok, refuse_eq_ok, require_eq_ok]

theorem removeIncome_eq_ok {id : Int} {reply : Reply Unit} :
    l.handle (.removeIncome id) = .ok reply ↔
      ∃ row, Table.find? l.incomes id = some row ∧
        (l.eraseIncome id).settled row.monthId () (.incomeRemoved id row.monthId) = .ok reply := by
  simp [handle_removeIncome, bind_eq_ok, require_eq_ok]

theorem addPayment_eq_ok {payment : NewPayment} {reply : Reply Int} :
    l.handle (.addPayment payment) = .ok reply ↔
      payment.rejection? = none ∧ (∃ month, Table.find? l.months payment.monthId = some month) ∧
      l.KnowsType payment.typeId ∧
      ∃ cost, l.units payment.cost = .ok cost ∧
        (l.insertPayment payment cost).settled payment.monthId (l.counters.payment + 1)
          (.paymentAdded (l.counters.payment + 1) payment.monthId payment.cost) = .ok reply := by
  simp [handle_addPayment, bind_eq_ok, refuse_eq_ok, require_eq_ok, requireType_eq_ok]

theorem editPayment_eq_ok {edit : PaymentEdit} {reply : Reply Unit} :
    l.handle (.editPayment edit) = .ok reply ↔
      edit.rejection? = none ∧ ∃ row, Table.find? l.payments edit.id = some row ∧
      l.KnowsType (edit.typeId.getD SpendType.noType) ∧
      ∃ cost, l.units? edit.cost = .ok cost ∧
        (l.updatePayment edit cost).edited row.monthId edit.cost
          (.paymentEdited edit.id (givenFields [("cost", edit.cost.isSome),
            ("notes", edit.notes.isSome), ("title", edit.title.isSome),
            ("type_id", edit.typeId.isSome)])) = .ok reply := by
  simp [handle_editPayment, bind_eq_ok, refuse_eq_ok, require_eq_ok, requireType_eq_ok]

theorem removePayment_eq_ok {id : Int} {reply : Reply Unit} :
    l.handle (.removePayment id) = .ok reply ↔
      ∃ row, Table.find? l.payments id = some row ∧
        (l.erasePayment id).settled row.monthId () (.paymentRemoved id row.monthId) =
          .ok reply := by
  simp [handle_removePayment, bind_eq_ok, require_eq_ok]

theorem monthOfSpend_eq_ok {row : SpendRow} {monthId : Int} :
    l.monthOfSpend row = .ok monthId ↔
      ∃ day, Table.find? l.days row.dayId = some day ∧ day.monthId = monthId := by
  unfold monthOfSpend
  split
  next day hday => simp [hday]
  next hday => simp [hday]

theorem addSpend_eq_ok {spend : NewSpend} {reply : Reply Int} :
    l.handle (.addSpend spend) = .ok reply ↔
      spend.rejection? = none ∧ ∃ day, Table.find? l.days spend.dayId = some day ∧
      l.KnowsType spend.typeId ∧
      ∃ cost, l.units spend.cost = .ok cost ∧
        (l.insertSpend spend cost).settled day.monthId (l.counters.spend + 1)
          (.spendAdded (l.counters.spend + 1) spend.dayId spend.cost) = .ok reply := by
  simp [handle_addSpend, bind_eq_ok, refuse_eq_ok, require_eq_ok, requireType_eq_ok]

theorem editSpend_eq_ok {edit : SpendEdit} {reply : Reply Unit} :
    l.handle (.editSpend edit) = .ok reply ↔
      edit.rejection? = none ∧ ∃ row, Table.find? l.spends edit.id = some row ∧
      ∃ day, Table.find? l.days row.dayId = some day ∧
      l.KnowsType (edit.typeId.getD SpendType.noType) ∧
      ∃ cost, l.units? edit.cost = .ok cost ∧
        (l.updateSpend edit cost).edited day.monthId edit.cost
          (.spendEdited edit.id (givenFields [("cost", edit.cost.isSome),
            ("notes", edit.notes.isSome), ("title", edit.title.isSome),
            ("type_id", edit.typeId.isSome)])) = .ok reply := by
  simp [handle_editSpend, bind_eq_ok, refuse_eq_ok, require_eq_ok, requireType_eq_ok,
    monthOfSpend_eq_ok]

theorem removeSpend_eq_ok {id : Int} {reply : Reply Unit} :
    l.handle (.removeSpend id) = .ok reply ↔
      ∃ row, Table.find? l.spends id = some row ∧
      ∃ day, Table.find? l.days row.dayId = some day ∧
        (l.eraseSpend id).settled day.monthId () (.spendRemoved id day.monthId) = .ok reply := by
  simp [handle_removeSpend, bind_eq_ok, require_eq_ok, monthOfSpend_eq_ok]

theorem addSpendType_eq_ok {type : NewSpendType} {reply : Reply Int} :
    l.handle (.addSpendType type) = .ok reply ↔
      type.rejection? = none ∧ l.KnowsType type.parent ∧
        reply = ⟨l.counters.spendType + 1, l.insertType type,
          [.spendTypeAdded (l.counters.spendType + 1) type.parent]⟩ := by
  simp [handle_addSpendType, -bind_pure_comp, bind_eq_ok, pure_eq_ok, refuse_eq_ok,
    requireType_eq_ok]

theorem requireParent_eq_ok {id parent : Int} {u : Unit} :
    l.requireParent id parent = .ok u ↔
      l.KnowsType parent ∧ SpendType.hasCycle l.types id parent = .ok false := by
  unfold requireParent
  simp only [bind_eq_ok, requireType_eq_ok]
  constructor
  · rintro ⟨_, htype, cyclic, hcycle, hend⟩
    cases cyclic with
    | true => cases hend
    | false => exact ⟨htype, hcycle⟩
  · rintro ⟨htype, hcycle⟩
    exact ⟨(), htype, false, hcycle, rfl⟩

theorem requireGivenParent_eq_ok {edit : SpendTypeEdit} {u : Unit} :
    l.requireGivenParent edit = .ok u ↔
      ∀ parent, edit.parent = some parent → l.requireParent edit.id parent = .ok () := by
  unfold requireGivenParent
  cases edit.parent with
  | none => simp
  | some parent => simp

theorem editSpendType_eq_ok {edit : SpendTypeEdit} {reply : Reply Unit} :
    l.handle (.editSpendType edit) = .ok reply ↔
      edit.rejection? = none ∧ (∃ type, Table.find? l.types edit.id = some type) ∧
      (∀ parent, edit.parent = some parent → l.requireParent edit.id parent = .ok ()) ∧
        reply = ⟨(), l.updateType edit, [.spendTypeEdited edit.id (givenFields
          [("name", edit.name.isSome), ("parent_id", edit.parent.isSome)])]⟩ := by
  simp [handle_editSpendType, -bind_pure_comp, bind_eq_ok, pure_eq_ok, refuse_eq_ok,
    require_eq_ok, requireGivenParent_eq_ok]

theorem requireUnused_eq_ok {id : Int} {u : Unit} :
    l.requireUnused id = .ok u ↔ l.usage? id = none := by
  unfold requireUnused
  cases l.usage? id with
  | none => simp
  | some why => simp

theorem removeSpendType_eq_ok {id : Int} {reply : Reply Unit} :
    l.handle (.removeSpendType id) = .ok reply ↔
      (∃ type, Table.find? l.types id = some type) ∧ l.usage? id = none ∧
        reply = ⟨(), l.eraseType id, [.spendTypeRemoved id]⟩ := by
  simp [handle_removeSpendType, -bind_pure_comp, bind_eq_ok, pure_eq_ok, require_eq_ok,
    requireUnused_eq_ok]

/-! ## All requests -/

/-- A request that succeeds is one revision with the recomputation that it asks for. -/
theorem handle_eq_ok {α : Type} {request : Request α} {reply : Reply α}
    (h : l.handle request = .ok reply) :
    ∃ middle target, Revision l middle target ∧ Recomputed middle target reply.ledger := by
  cases request with
  | openMonth year month =>
      obtain ⟨hmonth, _, ⟨row, _, rfl⟩ | ⟨hfree, days, hdays, rfl⟩⟩ := openMonth_eq_ok.mp h
      · exact ⟨l, none, .unchanged, rfl⟩
      · exact ⟨_, _, .monthOpened year month days hmonth hfree hdays, rfl⟩
  | addIncome income =>
      obtain ⟨hvalid, hmonth, amount, hamount, hend⟩ := addIncome_eq_ok.mp h
      exact ⟨_, _, .incomeAdded income amount hvalid hmonth hamount, recomputed_of_settled hend⟩
  | editIncome edit =>
      obtain ⟨hvalid, row, hrow, amount, hamount, hend⟩ := editIncome_eq_ok.mp h
      exact ⟨_, _, .incomeEdited edit amount row hvalid hrow hamount, recomputed_of_edited hend⟩
  | removeIncome id =>
      obtain ⟨row, hrow, hend⟩ := removeIncome_eq_ok.mp h
      exact ⟨_, _, .incomeRemoved id row hrow, recomputed_of_settled hend⟩
  | addPayment payment =>
      obtain ⟨hvalid, hmonth, htype, cost, hcost, hend⟩ := addPayment_eq_ok.mp h
      exact ⟨_, _, .paymentAdded payment cost hvalid hmonth htype hcost,
        recomputed_of_settled hend⟩
  | editPayment edit =>
      obtain ⟨hvalid, row, hrow, htype, cost, hcost, hend⟩ := editPayment_eq_ok.mp h
      exact ⟨_, _, .paymentEdited edit cost row hvalid hrow htype hcost,
        recomputed_of_edited hend⟩
  | removePayment id =>
      obtain ⟨row, hrow, hend⟩ := removePayment_eq_ok.mp h
      exact ⟨_, _, .paymentRemoved id row hrow, recomputed_of_settled hend⟩
  | addSpend spend =>
      obtain ⟨hvalid, day, hday, htype, cost, hcost, hend⟩ := addSpend_eq_ok.mp h
      exact ⟨_, _, .spendAdded spend cost day hvalid hday htype hcost,
        recomputed_of_settled hend⟩
  | editSpend edit =>
      obtain ⟨hvalid, row, hrow, day, hday, htype, cost, hcost, hend⟩ := editSpend_eq_ok.mp h
      exact ⟨_, _, .spendEdited edit cost row day hvalid hrow hday htype hcost,
        recomputed_of_edited hend⟩
  | removeSpend id =>
      obtain ⟨row, hrow, day, hday, hend⟩ := removeSpend_eq_ok.mp h
      exact ⟨_, _, .spendRemoved id row day hrow hday, recomputed_of_settled hend⟩
  | addSpendType type =>
      obtain ⟨hvalid, hparent, rfl⟩ := addSpendType_eq_ok.mp h
      exact ⟨_, _, .typeAdded type hvalid hparent, rfl⟩
  | editSpendType edit =>
      obtain ⟨hvalid, ⟨type, htype⟩, hparent, rfl⟩ := editSpendType_eq_ok.mp h
      exact ⟨_, _, .typeEdited edit type hvalid htype hparent, rfl⟩
  | removeSpendType id =>
      obtain ⟨⟨type, htype⟩, hunused, rfl⟩ := removeSpendType_eq_ok.mp h
      exact ⟨_, _, .typeRemoved id type htype hunused, rfl⟩
  | _ => exact ⟨l, none, .unchanged, Operation.IsReading.ledger_eq (by exact True.intro) h⟩

end Allowance.Ledger
