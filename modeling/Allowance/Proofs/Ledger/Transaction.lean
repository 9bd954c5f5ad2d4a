import Allowance.Ledger.Transaction
import Allowance.Proofs.Outcome

/-!
# What a transaction comes to

Work in a transaction that succeeds has done all of its steps, and work in one that fails has done
none of them. So a request is answered as if everything was looked up first and the ledger then
changed at once, and a request that fails leaves the ledger as it was.
-/

namespace Allowance.Ledger

open Outcome

variable {α β : Type}

/-! ## The ends of transactions -/

/-- The ledger with a new month and its days, of which there are the given number. -/
def insertMonth (l : Ledger) (year month : Int) (days : Nat) : Ledger :=
  let id := l.counters.month + 1
  let newDay (i : Nat) : DayRow := ⟨l.counters.day + 1 + i, id, i + 1, 0⟩
  { l with
    months := l.months ++ [⟨id, year, month, 0, 0, 0, 0⟩]
    days := l.days ++ (List.range days).map newDay
    counters := { l.counters with month := id, day := l.counters.day + days } }

/-- The reply once a month is recomputed. -/
def settled (l : Ledger) (monthId : Int) (value : α) (entry : LogEntry) :
    Except Failure (Reply α) := do
  let (l, month) ← l.settle monthId
  return ⟨value, l, [recomputed month, entry]⟩

/-- The reply to an edit, which recomputes a month if it gives an amount. -/
def edited (l : Ledger) (monthId : Int) (amount : Option Money) (entry : LogEntry) :
    Except Failure (Reply Unit) :=
  match amount with
  | some _ => l.settled monthId () entry
  | none => .ok ⟨(), l, [entry]⟩

namespace Work

variable {work : Work α} {draft : Draft}

/-! ## The outcome of each step -/

theorem perform_bind (work : Work α) (next : α → Work β) (draft : Draft) :
    (work >>= next).perform draft =
      match work.perform draft with
      | (.ok a, done) => (next a).perform done
      | (.error why, failed) => (.error why, failed) := by
  change (ExceptT.bindCont next (work draft).1) (work draft).2 = _
  unfold perform ExceptT.run StateT.run Id.run
  cases work draft with
  | mk outcome done => cases outcome <;> rfl

theorem perform_tryCatch (work : Work α) (handler : Failure → Work α) (draft : Draft) :
    (tryCatch work handler).perform draft =
      match work.perform draft with
      | (.ok a, done) => (.ok a, done)
      | (.error why, failed) => (handler why).perform failed := by
  change ExceptT.tryCatch work handler draft = _
  unfold ExceptT.tryCatch ExceptT.mk perform ExceptT.run StateT.run Id.run
  simp only [bind, StateT.bind]
  cases work draft with
  | mk outcome done => cases outcome <;> rfl

theorem perform_attempt (outcome : Except Failure α) (draft : Draft) :
    (attempt outcome).perform draft = (outcome, draft) :=
  rfl

theorem perform_current (draft : Draft) : current.perform draft = (.ok draft.ledger, draft) :=
  rfl

theorem perform_change (f : Ledger → Ledger) (draft : Draft) :
    (change f).perform draft = (.ok (), { draft with ledger := f draft.ledger }) :=
  rfl

theorem perform_note (entry : LogEntry) (draft : Draft) :
    (note entry).perform draft = (.ok (), { draft with log := draft.log ++ [entry] }) :=
  rfl

/-- The changes of a transaction stay if all of its steps succeed and are undone if one fails. -/
theorem perform_transaction (work : Work α) (draft : Draft) :
    (transaction work).perform draft =
      match work.perform draft with
      | (.ok a, done) => (.ok a, done)
      | (.error why, failed) => (.error why, { failed with ledger := draft.ledger }) := by
  rw [transaction, perform_bind, perform_current]
  exact perform_tryCatch work _ draft

/-! ## Replies

The reply to a failure does not tell what it left behind, so that here transactions do not count. -/

theorem reply_eq_ok {answered : Reply α} :
    work.reply draft = .ok answered ↔
      work.perform draft = (.ok answered.value, ⟨answered.ledger, answered.log⟩) := by
  unfold reply
  split
  next value done hdone =>
    rw [hdone]
    cases done
    cases answered
    simp
  next why failed hfailed => simp [hfailed]

theorem reply_eq_error {why : Failure} :
    work.reply draft = .error why ↔ (work.perform draft).1 = .error why := by
  unfold reply
  split
  next value done hdone => simp [hdone]
  next other failed hfailed => simp [hfailed]

@[simp] theorem reply_pure (a : α) (draft : Draft) :
    (pure a : Work α).reply draft = pure ⟨a, draft.ledger, draft.log⟩ :=
  rfl

@[simp] theorem reply_attempt_bind (outcome : Except Failure α) (next : α → Work β)
    (draft : Draft) :
    (attempt outcome >>= next).reply draft = outcome >>= fun a => (next a).reply draft := by
  rw [reply, perform_bind, perform_attempt]
  cases outcome <;> rfl

@[simp] theorem reply_current_bind (next : Ledger → Work β) (draft : Draft) :
    (current >>= next).reply draft = (next draft.ledger).reply draft := by
  rw [reply, perform_bind, perform_current]
  rfl

@[simp] theorem reply_change_bind (f : Ledger → Ledger) (next : Unit → Work β) (draft : Draft) :
    (change f >>= next).reply draft =
      (next ()).reply { draft with ledger := f draft.ledger } := by
  rw [reply, perform_bind, perform_change]
  rfl

@[simp] theorem reply_note_bind (entry : LogEntry) (next : Unit → Work β) (draft : Draft) :
    (note entry >>= next).reply draft =
      (next ()).reply { draft with log := draft.log ++ [entry] } := by
  rw [reply, perform_bind, perform_note]
  rfl

@[simp] theorem reply_note (entry : LogEntry) (draft : Draft) :
    (note entry).reply draft = pure ⟨(), draft.ledger, draft.log ++ [entry]⟩ :=
  rfl

@[simp] theorem reply_transaction_bind (work : Work α) (next : α → Work β) (draft : Draft) :
    (transaction work >>= next).reply draft = (work >>= next).reply draft := by
  rw [reply, reply, perform_bind, perform_bind, perform_transaction]
  cases work.perform draft with
  | mk outcome done => cases outcome <;> rfl

@[simp] theorem reply_transaction (work : Work α) (draft : Draft) :
    (transaction work).reply draft = work.reply draft := by
  rw [reply, reply, perform_transaction]
  cases work.perform draft with
  | mk outcome done => cases outcome <;> rfl

@[simp] theorem reply_read (find : Ledger → Except Failure α) (l : Ledger) :
    (read find).reply ⟨l, []⟩ = (find l).map l.answer := by
  rw [read, reply_transaction, reply_current_bind, reply, perform_attempt]
  cases find l <;> rfl

theorem reply_settle_bind (l : Ledger) (monthId : Int) (next : Unit → Work β) :
    (settle monthId >>= next).reply ⟨l, []⟩ = (do
      let (settled, month) ← l.settle monthId
      (next ()).reply ⟨settled, [recomputed month]⟩) := by
  simp only [settle, bind_assoc, reply_current_bind, reply_attempt_bind, reply_change_bind,
    reply_note_bind, List.nil_append]

@[simp] theorem reply_settle (l : Ledger) (monthId : Int) (entry : LogEntry) :
    (do settle monthId; note entry : Work Unit).reply ⟨l, []⟩ = l.settled monthId () entry :=
  reply_settle_bind l monthId _

@[simp] theorem reply_settle_return (l : Ledger) (monthId : Int) (value : α) (entry : LogEntry) :
    (do settle monthId; note entry; return value : Work α).reply ⟨l, []⟩ =
      l.settled monthId value entry :=
  reply_settle_bind l monthId _

@[simp] theorem reply_settleFor (l : Ledger) (amount : Option Money) (monthId : Int)
    (entry : LogEntry) :
    (do settleFor amount monthId; note entry : Work Unit).reply ⟨l, []⟩ =
      l.edited monthId amount entry := by
  cases amount with
  | some m => exact reply_settle l monthId entry
  | none => rfl

/-! ## Failures -/

/-- The work can only fail with the ledger as it was at the beginning. -/
def IsAtomic (work : Work α) : Prop :=
  ∀ draft why, (work.perform draft).1 = .error why →
    (work.perform draft).2.ledger = draft.ledger

theorem isAtomic_transaction (work : Work α) : (transaction work).IsAtomic := by
  intro draft why hfails
  rw [perform_transaction] at hfails ⊢
  cases hwork : work.perform draft with
  | mk outcome done =>
      rw [hwork] at hfails
      cases outcome with
      | ok a => cases hfails
      | error other => rfl

theorem isAtomic_pure (a : α) : (pure a : Work α).IsAtomic :=
  fun _ _ _ => rfl

theorem isAtomic_attempt_bind (outcome : Except Failure α) {next : α → Work β}
    (hnext : ∀ a, (next a).IsAtomic) : (attempt outcome >>= next).IsAtomic := by
  intro draft why hfails
  rw [perform_bind, perform_attempt] at hfails ⊢
  cases outcome with
  | ok a => exact hnext a draft why hfails
  | error other => rfl

theorem IsAtomic.bind_of_succeeds (hwork : work.IsAtomic) {next : α → Work β}
    (hnext : ∀ a draft why, ((next a).perform draft).1 ≠ .error why) :
    (work >>= next).IsAtomic := by
  intro draft why hfails
  rw [perform_bind] at hfails ⊢
  cases hdone : work.perform draft with
  | mk outcome done =>
      rw [hdone] at hfails
      cases outcome with
      | ok a => exact absurd hfails (hnext a done why)
      | error other => simpa [hdone] using hwork draft other

theorem IsAtomic.bind_note (hwork : work.IsAtomic) (entry : α → LogEntry) :
    (work >>= fun a => note (entry a)).IsAtomic :=
  hwork.bind_of_succeeds fun _ _ _ => nofun

theorem IsAtomic.bind_note_return (hwork : work.IsAtomic) (entry : α → LogEntry) :
    (do let a ← work; note (entry a); return a : Work α).IsAtomic :=
  hwork.bind_of_succeeds fun _ _ _ => nofun

end Work

open Work in
/-- Every request makes its changes in one transaction, after which it cannot fail any more. -/
theorem Request.isAtomic_work (request : Request α) : request.work.IsAtomic := by
  cases request with
  | prepare code => exact isAtomic_attempt_bind _ fun _ => isAtomic_pure _
  | currency | month | monthOn | months | dayOn | day | spendType | spendTypes | search =>
      exact isAtomic_transaction _
  | openMonth year month =>
      simp only [Request.work, Work.openMonth]
      exact isAtomic_attempt_bind _ fun _ => isAtomic_transaction _
  | addIncome | addPayment | addSpend | addSpendType =>
      simp only [Request.work, Work.addIncome, Work.addPayment, Work.addSpend, Work.addSpendType]
      exact isAtomic_attempt_bind _ fun _ => (isAtomic_transaction _).bind_note_return _
  | editIncome | editPayment | editSpend | editSpendType =>
      simp only [Request.work, Work.editIncome, Work.editPayment, Work.editSpend,
        Work.editSpendType]
      exact isAtomic_attempt_bind _ fun _ => (isAtomic_transaction _).bind_note _
  | removeIncome | removePayment | removeSpend | removeSpendType =>
      simp only [Request.work, Work.removeIncome, Work.removePayment, Work.removeSpend,
        Work.removeSpendType]
      exact (isAtomic_transaction _).bind_note _

/-! ## One equation for each request -/

variable {l : Ledger}

theorem handle_prepare (code : String) :
    l.handle (.prepare code) = (Currency.ofCode code).map fun _ => l.answer () := by
  simp only [handle, Request.work, Work.reply_attempt_bind, Work.reply_pure]
  rfl

/-- A look-up leaves the ledger as it is. -/
theorem handle_of_read {request : Request α} {find : Ledger → Except Failure α}
    (hread : request.work = .read find) : l.handle request = (find l).map l.answer := by
  rw [handle, hread, Work.reply_read]

theorem read_eq_ok {request : Request α} {find : Ledger → Except Failure α} {reply : Reply α}
    (hread : request.work = .read find) :
    l.handle request = .ok reply ↔ ∃ value, find l = .ok value ∧ l.answer value = reply := by
  rw [handle_of_read hread, map_eq_ok]

theorem handle_eq_answer {request : Request α} {find : Ledger → Except Failure α} {value : α}
    (hread : request.work = .read find) (hfind : find l = .ok value) :
    l.handle request = .ok (l.answer value) :=
  (read_eq_ok hread).mpr ⟨value, hfind, rfl⟩

theorem insertDays_insertMonthRow (year month : Int) (days : Nat) :
    (l.insertMonthRow year month).insertDays (l.counters.month + 1) days =
      l.insertMonth year month days :=
  rfl

theorem handle_openMonth (year month : Int) :
    l.handle (.openMonth year month) = (do
      requireMonthNumber month
      requireStorable year
      match l.findMonth? year month with
      | some row => return l.answer row.id
      | none =>
        let days ← Calendar.daysInMonth year month
        return ⟨l.counters.month + 1, l.insertMonth year month days,
          [.monthInitialized (l.counters.month + 1) year month]⟩) := by
  cases hfind : l.findMonth? year month with
  | some row =>
      simp [handle, Request.work, Work.openMonth, hfind, answer, -bind_pure_comp]
  | none =>
      simp [handle, Request.work, Work.openMonth, hfind, insertDays_insertMonthRow,
        -bind_pure_comp]

theorem handle_addIncome (income : NewIncome) :
    l.handle (.addIncome income) = (do
      refuse income.rejection?
      let _ ← require l.months .month income.monthId
      let amount ← l.units income.amount
      (l.insertIncome income amount).settled income.monthId (l.counters.income + 1)
        (.incomeAdded (l.counters.income + 1) income.monthId income.amount)) := by
  simp [handle, Request.work, Work.addIncome, -bind_pure_comp]

theorem handle_editIncome (edit : IncomeEdit) :
    l.handle (.editIncome edit) = (do
      refuse edit.rejection?
      let row ← require l.incomes .income edit.id
      let amount ← l.units? edit.amount
      (l.updateIncome edit amount).edited row.monthId edit.amount
        (.incomeEdited edit.id (givenFields [("income", edit.amount.isSome),
          ("notes", edit.notes.isSome), ("title", edit.title.isSome)]))) := by
  simp [handle, Request.work, Work.editIncome, -bind_pure_comp]

theorem handle_removeIncome (id : Int) :
    l.handle (.removeIncome id) = (do
      let row ← require l.incomes .income id
      (l.eraseIncome id).settled row.monthId () (.incomeRemoved id row.monthId)) := by
  simp [handle, Request.work, Work.removeIncome, -bind_pure_comp]

theorem handle_addPayment (payment : NewPayment) :
    l.handle (.addPayment payment) = (do
      refuse payment.rejection?
      let _ ← require l.months .month payment.monthId
      l.requireType payment.typeId
      let cost ← l.units payment.cost
      (l.insertPayment payment cost).settled payment.monthId (l.counters.payment + 1)
        (.paymentAdded (l.counters.payment + 1) payment.monthId payment.cost)) := by
  simp [handle, Request.work, Work.addPayment, -bind_pure_comp]

theorem handle_editPayment (edit : PaymentEdit) :
    l.handle (.editPayment edit) = (do
      refuse edit.rejection?
      let row ← require l.payments .payment edit.id
      l.requireType (edit.typeId.getD SpendType.noType)
      let cost ← l.units? edit.cost
      (l.updatePayment edit cost).edited row.monthId edit.cost
        (.paymentEdited edit.id (givenFields [("cost", edit.cost.isSome),
          ("notes", edit.notes.isSome), ("title", edit.title.isSome),
          ("type_id", edit.typeId.isSome)]))) := by
  simp [handle, Request.work, Work.editPayment, -bind_pure_comp]

theorem handle_removePayment (id : Int) :
    l.handle (.removePayment id) = (do
      let row ← require l.payments .payment id
      (l.erasePayment id).settled row.monthId () (.paymentRemoved id row.monthId)) := by
  simp [handle, Request.work, Work.removePayment, -bind_pure_comp]

theorem handle_addSpend (spend : NewSpend) :
    l.handle (.addSpend spend) = (do
      refuse spend.rejection?
      let day ← require l.days .day spend.dayId
      l.requireType spend.typeId
      let cost ← l.units spend.cost
      (l.insertSpend spend cost).settled day.monthId (l.counters.spend + 1)
        (.spendAdded (l.counters.spend + 1) spend.dayId spend.cost)) := by
  simp [handle, Request.work, Work.addSpend, -bind_pure_comp]

theorem handle_editSpend (edit : SpendEdit) :
    l.handle (.editSpend edit) = (do
      refuse edit.rejection?
      let row ← require l.spends .spend edit.id
      let monthId ← l.monthOfSpend row
      l.requireType (edit.typeId.getD SpendType.noType)
      let cost ← l.units? edit.cost
      (l.updateSpend edit cost).edited monthId edit.cost
        (.spendEdited edit.id (givenFields [("cost", edit.cost.isSome),
          ("notes", edit.notes.isSome), ("title", edit.title.isSome),
          ("type_id", edit.typeId.isSome)]))) := by
  simp [handle, Request.work, Work.editSpend, -bind_pure_comp]

theorem handle_removeSpend (id : Int) :
    l.handle (.removeSpend id) = (do
      let row ← require l.spends .spend id
      let monthId ← l.monthOfSpend row
      (l.eraseSpend id).settled monthId () (.spendRemoved id monthId)) := by
  simp [handle, Request.work, Work.removeSpend, -bind_pure_comp]

theorem handle_addSpendType (type : NewSpendType) :
    l.handle (.addSpendType type) = (do
      refuse type.rejection?
      l.requireType type.parent
      return ⟨l.counters.spendType + 1, l.insertType type,
        [.spendTypeAdded (l.counters.spendType + 1) type.parent]⟩) := by
  simp [handle, Request.work, Work.addSpendType, -bind_pure_comp]

theorem handle_editSpendType (edit : SpendTypeEdit) :
    l.handle (.editSpendType edit) = (do
      refuse edit.rejection?
      let _ ← require l.types .spendType edit.id
      l.requireGivenParent edit
      return ⟨(), l.updateType edit, [.spendTypeEdited edit.id (givenFields
        [("name", edit.name.isSome), ("parent_id", edit.parent.isSome)])]⟩) := by
  simp [handle, Request.work, Work.editSpendType, -bind_pure_comp]

theorem handle_removeSpendType (id : Int) :
    l.handle (.removeSpendType id) = (do
      let _ ← require l.types .spendType id
      l.requireUnused id
      return ⟨(), l.eraseType id, [.spendTypeRemoved id]⟩) := by
  simp [handle, Request.work, Work.removeSpendType, -bind_pure_comp]

end Allowance.Ledger
