import Allowance.Proofs.Ledger.Run
import Allowance.Proofs.Ledger.Settling

/-!
# The integrity of a ledger

In every state that a ledger comes to, numbers are given out in ascending order, whatever a row
refers to exists, and a month has one day for each of its calendar days. Requests are checked one
table at a time: a revision changes the rows of a single table, so all other parts carry over.
-/

namespace Allowance.Ledger

@[simp] theorem number_monthRow (row : MonthRow) : Numbered.number row = row.id :=
  rfl

@[simp] theorem number_dayRow (row : DayRow) : Numbered.number row = row.id :=
  rfl

@[simp] theorem number_spendType (type : SpendType) : Numbered.number type = type.id :=
  rfl

/-- A month lies in the calendar and its days are numbered from one to its length. -/
def FollowsCalendar (l : Ledger) (row : MonthRow) : Prop :=
  Calendar.daysInMonth row.year row.month = .ok row.length ∧
    (l.daysOf row.id).map (·.day) = (List.range row.length).map fun i : Nat => (i : Int) + 1

/-- Rows are numbered in ascending order and refer only to rows that exist; months have distinct
dates and all their days. -/
structure Integrity (l : Ledger) : Prop where
  months : Table.Ascending l.months l.counters.month
  days : Table.Ascending l.days l.counters.day
  incomes : Table.Ascending l.incomes l.counters.income
  payments : Table.Ascending l.payments l.counters.payment
  spends : Table.Ascending l.spends l.counters.spend
  types : Table.Ascending l.types l.counters.spendType
  distinct : (l.months.map fun row => (row.year, row.month)).Nodup
  calendar : ∀ row ∈ l.months, l.FollowsCalendar row
  dayMonth : ∀ row ∈ l.days, row.monthId ∈ Table.numbers l.months
  incomeMonth : ∀ row ∈ l.incomes, row.monthId ∈ Table.numbers l.months
  paymentMonth : ∀ row ∈ l.payments, row.monthId ∈ Table.numbers l.months
  spendDay : ∀ row ∈ l.spends, row.dayId ∈ Table.numbers l.days
  paymentType : ∀ row ∈ l.payments, l.KnowsType row.typeId
  spendType : ∀ row ∈ l.spends, l.KnowsType row.typeId
  typeParent : ∀ type ∈ l.types, l.KnowsType type.parent

namespace Integrity

variable {l : Ledger}

theorem empty (currency : Currency) : Integrity (Ledger.empty currency) where
  months := .nil
  days := .nil
  incomes := .nil
  payments := .nil
  spends := .nil
  types := .nil
  distinct := List.nodup_nil
  calendar := by simp [Ledger.empty]
  dayMonth := by simp [Ledger.empty]
  incomeMonth := by simp [Ledger.empty]
  paymentMonth := by simp [Ledger.empty]
  spendDay := by simp [Ledger.empty]
  paymentType := by simp [Ledger.empty]
  spendType := by simp [Ledger.empty]
  typeParent := by simp [Ledger.empty]

theorem find?_month (h : Integrity l) {row : MonthRow} (hrow : row ∈ l.months) :
    Table.find? l.months row.id = some row :=
  h.months.find?_number hrow

theorem nodup_days (h : Integrity l) : (l.days.map (·.id)).Nodup :=
  h.days.sorted.imp Int.ne_of_lt

theorem nodup_daysOf (h : Integrity l) (monthId : Int) :
    ((l.daysOf monthId).map (·.id)).Nodup :=
  h.nodup_days.sublist (List.filter_sublist.map _)

/-! ## Months -/

/-- A new month brings its own days and leaves those of the others alone. -/
theorem daysOf_insertMonth (h : Integrity l) (year month : Int) (days : Nat) {id : Int}
    (hid : id ∈ Table.numbers l.months) :
    (l.insertMonth year month days).daysOf id = l.daysOf id := by
  have hle := h.months.given id hid
  simp only [daysOf, insertMonth, List.filter_append]
  rw [List.append_right_eq_self, List.filter_eq_nil_iff]
  intro day hday
  obtain ⟨i, _, rfl⟩ := List.mem_map.mp hday
  simp only [decide_eq_true_eq]
  omega

theorem daysOf_insertMonth_new (h : Integrity l) (year month : Int) (days : Nat) :
    (l.insertMonth year month days).daysOf (l.counters.month + 1) =
      (List.range days).map fun i : Nat =>
        ⟨l.counters.day + 1 + i, l.counters.month + 1, i + 1, 0⟩ := by
  simp only [daysOf, insertMonth, List.filter_append]
  have hold : l.days.filter (·.monthId = l.counters.month + 1) = [] := by
    rw [List.filter_eq_nil_iff]
    intro day hday
    have := h.months.given _ (h.dayMonth day hday)
    simp only [decide_eq_true_eq]
    omega
  rw [hold, List.nil_append, List.filter_eq_self]
  intro day hday
  obtain ⟨i, _, rfl⟩ := List.mem_map.mp hday
  simp

theorem insertMonth (h : Integrity l) {year month : Int} {days : Nat}
    (hfree : l.findMonth? year month = none)
    (hdays : Calendar.daysInMonth year month = .ok days) :
    Integrity (l.insertMonth year month days) := by
  have hkept {id : Int} (hid : id ∈ Table.numbers l.months) :
      id ∈ Table.numbers (l.insertMonth year month days).months := by
    rw [Ledger.insertMonth, Table.numbers_append]
    exact List.mem_append_left _ hid
  -- The new month brings its own days; all other references are to months that were there.
  refine { h with
    months := h.months.append_next rfl, days := ?_, distinct := ?_, calendar := ?_
    dayMonth := ?_, incomeMonth := fun row hrow => hkept (h.incomeMonth row hrow)
    paymentMonth := fun row hrow => hkept (h.paymentMonth row hrow), spendDay := ?_ }
  · apply h.days.append
    simp [Table.numbers, Function.comp_def]
  · simp only [Ledger.insertMonth, List.map_append, List.map_cons, List.map_nil]
    rw [List.nodup_append]
    refine ⟨h.distinct, by simp, ?_⟩
    rintro date hdate _ hnew rfl
    obtain ⟨row, hrow, rfl⟩ := List.mem_map.mp hdate
    have hnone := List.find?_eq_none.mp hfree row hrow
    simp only [List.mem_singleton, Prod.mk.injEq] at hnew
    simp [hnew] at hnone
  · intro row hrow
    rcases List.mem_append.mp hrow with hold | hnew
    · obtain ⟨hlength, hnumbers⟩ := h.calendar row hold
      have hid : row.id ∈ Table.numbers l.months := Table.number_mem hold
      refine ⟨hlength, ?_⟩
      rw [h.daysOf_insertMonth year month days hid]
      exact hnumbers
    · obtain rfl := List.mem_singleton.mp hnew
      obtain ⟨_, _, rfl⟩ := Calendar.daysInMonth_eq_ok hdays
      refine ⟨hdays, ?_⟩
      rw [h.daysOf_insertMonth_new, List.map_map]
      rfl
  · intro row hrow
    rcases List.mem_append.mp hrow with hold | hnew
    · exact hkept (h.dayMonth row hold)
    · obtain ⟨i, _, rfl⟩ := List.mem_map.mp hnew
      simp [Ledger.insertMonth, Table.numbers]
  · intro row hrow
    rw [Ledger.insertMonth, Table.numbers_append]
    exact List.mem_append_left _ (h.spendDay row hrow)

/-! ## Entries -/

theorem insertIncome (h : Integrity l) {income : NewIncome} {amount : Int}
    (hmonth : income.monthId ∈ Table.numbers l.months) :
    Integrity (l.insertIncome income amount) :=
  { h with
    incomes := h.incomes.append_next rfl
    incomeMonth := Table.forall_mem_append_row h.incomeMonth hmonth }

theorem updateIncome (h : Integrity l) (edit : IncomeEdit) (amount : Option Int) :
    Integrity (l.updateIncome edit amount) :=
  { h with
    incomes := h.incomes.modify fun _ => rfl
    incomeMonth := Table.forall_mem_modify h.incomeMonth fun _ _ hmonth => hmonth }

theorem eraseIncome (h : Integrity l) (id : Int) : Integrity (l.eraseIncome id) :=
  { h with
    incomes := h.incomes.erase id
    incomeMonth := Table.forall_mem_erase h.incomeMonth }

theorem insertPayment (h : Integrity l) {payment : NewPayment} {cost : Int}
    (hmonth : payment.monthId ∈ Table.numbers l.months) (htype : l.KnowsType payment.typeId) :
    Integrity (l.insertPayment payment cost) :=
  { h with
    payments := h.payments.append_next rfl
    paymentMonth := Table.forall_mem_append_row h.paymentMonth hmonth
    paymentType := Table.forall_mem_append_row h.paymentType htype }

theorem updatePayment (h : Integrity l) {edit : PaymentEdit} (cost : Option Int)
    (htype : l.KnowsType (edit.typeId.getD SpendType.noType)) :
    Integrity (l.updatePayment edit cost) :=
  { h with
    payments := h.payments.modify fun _ => rfl
    paymentMonth := Table.forall_mem_modify h.paymentMonth fun _ _ hmonth => hmonth
    paymentType := Table.forall_mem_modify h.paymentType fun _ _ hold => by
      simp only [editedPayment]
      cases hedit : edit.typeId with
      | none => exact hold
      | some id =>
          rw [hedit] at htype
          exact htype }

theorem erasePayment (h : Integrity l) (id : Int) : Integrity (l.erasePayment id) :=
  { h with
    payments := h.payments.erase id
    paymentMonth := Table.forall_mem_erase h.paymentMonth
    paymentType := Table.forall_mem_erase h.paymentType }

theorem insertSpend (h : Integrity l) {spend : NewSpend} {cost : Int}
    (hday : spend.dayId ∈ Table.numbers l.days) (htype : l.KnowsType spend.typeId) :
    Integrity (l.insertSpend spend cost) :=
  { h with
    spends := h.spends.append_next rfl
    spendDay := Table.forall_mem_append_row h.spendDay hday
    spendType := Table.forall_mem_append_row h.spendType htype }

theorem updateSpend (h : Integrity l) {edit : SpendEdit} (cost : Option Int)
    (htype : l.KnowsType (edit.typeId.getD SpendType.noType)) :
    Integrity (l.updateSpend edit cost) :=
  { h with
    spends := h.spends.modify fun _ => rfl
    spendDay := Table.forall_mem_modify h.spendDay fun _ _ hday => hday
    spendType := Table.forall_mem_modify h.spendType fun _ _ hold => by
      simp only [editedSpend]
      cases hedit : edit.typeId with
      | none => exact hold
      | some id =>
          rw [hedit] at htype
          exact htype }

theorem eraseSpend (h : Integrity l) (id : Int) : Integrity (l.eraseSpend id) :=
  { h with
    spends := h.spends.erase id
    spendDay := Table.forall_mem_erase h.spendDay
    spendType := Table.forall_mem_erase h.spendType }

/-! ## Spend types -/

theorem insertType (h : Integrity l) {type : NewSpendType} (hparent : l.KnowsType type.parent) :
    Integrity (l.insertType type) := by
  have hkept {id : Int} (hid : l.KnowsType id) : (l.insertType type).KnowsType id := by
    refine hid.imp_right fun hmem => ?_
    rw [Ledger.insertType, Table.numbers_append]
    exact List.mem_append_left _ hmem
  refine { h with
    types := h.types.append_next rfl
    paymentType := fun row hrow => hkept (h.paymentType row hrow)
    spendType := fun row hrow => hkept (h.spendType row hrow)
    typeParent := ?_ }
  exact Table.forall_mem_append_row (fun row hrow => hkept (h.typeParent row hrow)) (hkept hparent)

theorem updateType (h : Integrity l) {edit : SpendTypeEdit}
    (hparent : ∀ parent, edit.parent = some parent → l.KnowsType parent) :
    Integrity (l.updateType edit) := by
  have hnumbers : Table.numbers (l.updateType edit).types = Table.numbers l.types :=
    Table.numbers_modify fun _ => rfl
  have hkept {id : Int} (hid : l.KnowsType id) : (l.updateType edit).KnowsType id :=
    hid.imp_right fun hmem => hnumbers ▸ hmem
  refine { h with
    types := h.types.modify fun _ => rfl
    paymentType := fun row hrow => hkept (h.paymentType row hrow)
    spendType := fun row hrow => hkept (h.spendType row hrow)
    typeParent := ?_ }
  refine Table.forall_mem_modify (fun row hrow => hkept (h.typeParent row hrow)) ?_
  intro row _ hold
  simp only [editedType]
  cases hedit : edit.parent with
  | none => exact hold
  | some parent => exact hkept (hparent parent hedit)

theorem usage?_eq_none {id : Int} :
    l.usage? id = none ↔ (∀ row ∈ l.payments, row.typeId ≠ id) ∧
      (∀ row ∈ l.spends, row.typeId ≠ id) ∧ ∀ row ∈ l.types, row.parent ≠ id := by
  unfold usage?
  split
  next hused =>
    obtain ⟨row, hrow, hid⟩ := List.any_eq_true.mp hused
    simp only [reduceCtorEq, false_iff]
    exact fun hnone => hnone.1 row hrow (by simpa using hid)
  next hpayments =>
    split
    next hused =>
      obtain ⟨row, hrow, hid⟩ := List.any_eq_true.mp hused
      simp only [reduceCtorEq, false_iff]
      exact fun hnone => hnone.2.1 row hrow (by simpa using hid)
    next hspends =>
      split
      next hused =>
        obtain ⟨row, hrow, hid⟩ := List.any_eq_true.mp hused
        simp only [reduceCtorEq, false_iff]
        exact fun hnone => hnone.2.2 row hrow (by simpa using hid)
      next htypes =>
        simp only [List.any_eq_true, beq_iff_eq, not_exists, not_and] at hpayments hspends htypes
        simp only [true_iff]
        exact ⟨hpayments, hspends, htypes⟩

theorem eraseType (h : Integrity l) {id : Int} (hunused : l.usage? id = none) :
    Integrity (l.eraseType id) := by
  obtain ⟨hpayments, hspends, htypes⟩ := usage?_eq_none.mp hunused
  have hkept {other : Int} (hne : other ≠ id) (hother : l.KnowsType other) :
      (l.eraseType id).KnowsType other := by
    refine hother.imp_right fun hmem => ?_
    obtain ⟨row, hrow, rfl⟩ := Table.mem_numbers.mp hmem
    exact Table.number_mem (Table.mem_erase.mpr ⟨hrow, hne⟩)
  exact { h with
    types := h.types.erase id
    paymentType := fun row hrow => hkept (hpayments row hrow) (h.paymentType row hrow)
    spendType := fun row hrow => hkept (hspends row hrow) (h.spendType row hrow)
    typeParent := fun row hrow =>
      hkept (htypes row (Table.mem_erase.mp hrow).1)
        (h.typeParent row (Table.mem_erase.mp hrow).1) }

/-! ## Figures -/

/-- Writing figures changes no number, no reference and no date. -/
theorem withFigures (h : Integrity l) (id : Int) (f : Figures) :
    Integrity (l.withFigures id f) := by
  have hmonths : Table.numbers (l.withFigures id f).months = Table.numbers l.months :=
    Table.numbers_modify fun _ => rfl
  have hdays : Table.numbers (l.withFigures id f).days = Table.numbers l.days := by
    simp [Table.numbers, Ledger.withFigures, Function.comp_def]
  refine { h with
    months := h.months.of_numbers_eq hmonths
    days := h.days.of_numbers_eq hdays
    distinct := ?_, calendar := ?_, dayMonth := ?_
    incomeMonth := fun row hrow => hmonths ▸ h.incomeMonth row hrow
    paymentMonth := fun row hrow => hmonths ▸ h.paymentMonth row hrow
    spendDay := fun row hrow => hdays ▸ h.spendDay row hrow }
  · have hdates : (l.withFigures id f).months.map (fun row => (row.year, row.month)) =
        l.months.map fun row => (row.year, row.month) :=
      Table.map_modify _ fun _ => rfl
    exact hdates ▸ h.distinct
  · have hcalendar (row : MonthRow) (hrow : l.FollowsCalendar row) :
        (l.withFigures id f).FollowsCalendar row := by
      refine ⟨hrow.1, ?_⟩
      rw [daysOf_withFigures, List.map_map]
      simpa [Function.comp_def] using hrow.2
    exact Table.forall_mem_modify (fun row hrow => hcalendar row (h.calendar row hrow))
      fun _ _ hold => hold
  · intro day hday
    obtain ⟨old, hold, rfl⟩ := List.mem_map.mp hday
    rw [hmonths, withBalance_monthId]
    exact h.dayMonth old hold

/-- The figures of a month that are stored already can be written again. -/
theorem withFigures_stored_eq_self (h : Integrity l) {row : MonthRow} (hrow : row ∈ l.months) :
    l.withFigures row.id (l.stored row) = l :=
  withFigures_stored (fun _ hother hid => h.months.eq_of_number hother hrow hid) h.nodup_days

/-! ## Requests -/

theorem revision (h : Integrity l) {middle : Ledger} {target : Option Int}
    (hrevision : Revision l middle target) : Integrity middle := by
  cases hrevision with
  | unchanged => exact h
  | monthOpened year month days hmonth hfree hdays => exact h.insertMonth hfree hdays
  | incomeAdded income amount hvalid hmonth hamount =>
      exact h.insertIncome (Table.find?_isSome_iff.mp hmonth)
  | incomeEdited edit amount row hvalid hrow hamount => exact h.updateIncome edit amount
  | incomeRemoved id row hrow => exact h.eraseIncome id
  | paymentAdded payment cost hvalid hmonth htype hcost =>
      exact h.insertPayment (Table.find?_isSome_iff.mp hmonth) htype
  | paymentEdited edit cost row hvalid hrow htype hcost => exact h.updatePayment cost htype
  | paymentRemoved id row hrow => exact h.erasePayment id
  | spendAdded spend cost day hvalid hday htype hcost =>
      exact h.insertSpend (Table.mem_numbers_of_find? hday) htype
  | spendEdited edit cost row day hvalid hrow hday htype hcost => exact h.updateSpend cost htype
  | spendRemoved id row day hrow hday => exact h.eraseSpend id
  | typeAdded type hvalid hparent => exact h.insertType hparent
  | typeEdited edit type hvalid htype hparent =>
      exact h.updateType fun parent hedit => (requireParent_eq_ok.mp (hparent parent hedit)).1
  | typeRemoved id type htype hunused => exact h.eraseType hunused

/-- A month can be recomputed exactly when its figures can be stored. -/
theorem recomputed_iff_storable (h : Integrity l) {row : MonthRow} (hrow : row ∈ l.months)
    {final : Ledger} : Recomputed l (some row.id) final ↔
      (l.computed row).AreStorable ∧ final = l.withFigures row.id (l.computed row) :=
  recomputed_iff (h.find?_month hrow) (h.calendar row hrow).1

/-- What a recomputation does is known without looking at it: it writes the computed figures. -/
theorem recomputed (h : Integrity l) {id : Int} {final : Ledger}
    (hrecomputed : Recomputed l (some id) final) :
    ∃ row ∈ l.months, row.id = id ∧ (l.computed row).AreStorable ∧
      final = l.withFigures id (l.computed row) := by
  obtain ⟨month, hsettle⟩ := hrecomputed
  obtain ⟨loaded, hloaded, _⟩ := Outcome.bind_eq_ok.mp hsettle
  obtain ⟨row, hrow, _⟩ := Outcome.map_eq_ok.mp hloaded
  obtain ⟨hmem, rfl⟩ := Table.mem_of_find? (require_eq_ok.mp hrow)
  exact ⟨row, hmem, rfl, (h.recomputed_iff_storable hmem).mp ⟨month, hsettle⟩⟩

/-- A request that succeeds is one revision, after which at most figures are written. -/
theorem exists_revision (h : Integrity l) {α : Type} {request : Request α} {reply : Reply α}
    (hreply : l.handle request = .ok reply) :
    ∃ middle target, Revision l middle target ∧
      (reply.ledger = middle ∨ ∃ id f, reply.ledger = middle.withFigures id f) := by
  obtain ⟨middle, target, hrevision, hrecomputed⟩ := handle_eq_ok hreply
  refine ⟨middle, target, hrevision, ?_⟩
  cases target with
  | none => exact .inl hrecomputed
  | some id =>
      obtain ⟨row, _, _, _, hfinal⟩ := (h.revision hrevision).recomputed hrecomputed
      exact .inr ⟨id, _, hfinal⟩

theorem handle (h : Integrity l) {α : Type} {request : Request α} {reply : Reply α}
    (hreply : l.handle request = .ok reply) : Integrity reply.ledger := by
  obtain ⟨middle, target, hrevision, hfinal⟩ := h.exists_revision hreply
  have hmiddle := h.revision hrevision
  rcases hfinal with hsame | ⟨id, f, hwritten⟩
  · exact hsame ▸ hmiddle
  · exact hwritten ▸ hmiddle.withFigures id f

theorem run (h : Integrity l) (operations : List Operation) : Integrity (l.run operations) :=
  run_invariant Integrity (fun _ _ _ _ hl => hl.handle) h operations

end Integrity

end Allowance.Ledger
