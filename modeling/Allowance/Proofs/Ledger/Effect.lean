import Allowance.Proofs.Ledger.Admission

/-!
# What changes of entries change

A change of an income, a monthly payment or a spend writes to the row that it is about and, unless
it is an edit without an amount, to the figures of the month that owns this row. Every other row of
every table stays as it was. A row that is added stands last where its month lists it.
-/

namespace Allowance.Ledger

open Outcome

/-! ## Figures -/

/-- A ledger differs from another in the figures of one month, or of none, and in nothing else. -/
structure DiffersInFigures (l final : Ledger) (target : Option Int) : Prop where
  rest : final = { l with months := final.months, days := final.days }
  months : List.Forall₂ (fun old new : MonthRow =>
    new = { old with
      dailyBudget := new.dailyBudget
      totalIncome := new.totalIncome
      totalSpend := new.totalSpend
      result := new.result } ∧
    (target ≠ some old.id → new = old)) l.months final.months
  days : List.Forall₂ (fun old new : DayRow =>
    new = { old with saldo := new.saldo } ∧ (target ≠ some old.monthId → new = old))
    l.days final.days

theorem withBalance_eq (saldos : List (Int × Int)) (day : DayRow) :
    withBalance saldos day = { day with saldo := (withBalance saldos day).saldo } := by
  unfold withBalance
  split <;> rfl

/-- A recomputation changes the figures of its month. -/
theorem Integrity.differsInFigures {l final : Ledger} (h : Integrity l) {target : Option Int}
    (hrecomputed : Recomputed l target final) : DiffersInFigures l final target := by
  cases target with
  | none =>
      obtain rfl : final = l := hrecomputed
      exact ⟨rfl, List.forall₂_same.mpr fun _ _ => ⟨rfl, fun _ => rfl⟩,
        List.forall₂_same.mpr fun _ _ => ⟨rfl, fun _ => rfl⟩⟩
  | some id =>
      obtain ⟨row, hrow, rfl, _, rfl⟩ := h.recomputed hrecomputed
      refine ⟨rfl, ?_, ?_⟩
      · simp only [Ledger.withFigures, Table.modify, List.forall₂_map_right_iff, List.forall₂_same]
        intro month hmonth
        simp only [number_monthRow]
        split
        next hid => exact ⟨rfl, fun hother => absurd (congrArg some hid.symm) hother⟩
        next => exact ⟨rfl, fun _ => rfl⟩
      · simp only [Ledger.withFigures, List.forall₂_map_right_iff, List.forall₂_same]
        intro day hday
        refine ⟨withBalance_eq _ day, fun hother => withBalance_of_not_mem ?_⟩
        -- A day of another month is none of the days whose balances are written.
        rw [computed_keys]
        intro hmem
        obtain ⟨same, hsame, hid⟩ := List.mem_map.mp hmem
        obtain ⟨hsameMem, hsameMonth⟩ := mem_daysOf.mp hsame
        obtain rfl := h.days.eq_of_number hsameMem hday hid
        exact hother (congrArg some hsameMonth.symm)

/-! ## Edits -/

/-- A value after an edit: what is given is written, and otherwise the value is as it was. -/
def Takes {α β : Type} (given : Option α) (written : α → β → Prop) (old new : β) : Prop :=
  match given with
  | some value => written value new
  | none => new = old

/-- Minor units of a ledger have the value of an amount. -/
def HasValue (l : Ledger) (m : Money) (units : Int) : Prop :=
  (l.money units).same m = true

/-- Text is written without the blanks around it. -/
def IsTrimmed (text written : String) : Prop :=
  written = Text.trim text

/-- An income before and after an edit. -/
structure EditsIncome (l : Ledger) (edit : IncomeEdit) (old new : IncomeRow) : Prop where
  rest : new = { old with title := new.title, notes := new.notes, amount := new.amount }
  title : Takes edit.title IsTrimmed old.title new.title
  notes : Takes edit.notes IsTrimmed old.notes new.notes
  amount : Takes edit.amount l.HasValue old.amount new.amount

/-- A monthly payment before and after an edit. Giving `noType` as its type clears the type. -/
structure EditsPayment (l : Ledger) (edit : PaymentEdit) (old new : PaymentRow) : Prop where
  rest : new = { old with
    title := new.title, typeId := new.typeId, notes := new.notes, cost := new.cost }
  title : Takes edit.title IsTrimmed old.title new.title
  type : Takes edit.typeId Eq old.typeId new.typeId
  notes : Takes edit.notes IsTrimmed old.notes new.notes
  cost : Takes edit.cost l.HasValue old.cost new.cost

/-- A spend before and after an edit. Giving `noType` as its type clears the type. -/
structure EditsSpend (l : Ledger) (edit : SpendEdit) (old new : SpendRow) : Prop where
  rest : new = { old with
    title := new.title, typeId := new.typeId, notes := new.notes, cost := new.cost }
  title : Takes edit.title IsTrimmed old.title new.title
  type : Takes edit.typeId Eq old.typeId new.typeId
  notes : Takes edit.notes IsTrimmed old.notes new.notes
  cost : Takes edit.cost l.HasValue old.cost new.cost

variable {l : Ledger}

theorem hasValue_of_units {m : Money} {units : Int} (hunits : l.units m = .ok units) :
    l.HasValue m units := by
  rw [HasValue, Money.same_iff]
  exact (Money.hasUnits_iff_value.mp (units_eq_ok.mp hunits).1).symm

theorem takes_trimmed (given : Option String) (old : String) :
    Takes given IsTrimmed old ((given.map Text.trim).getD old) := by
  cases given <;> rfl

theorem takes_type (given : Option Int) (old : Int) : Takes given Eq old (given.getD old) := by
  cases given <;> rfl

theorem takes_amount {given : Option Money} {amount : Option Int}
    (hamount : l.units? given = .ok amount) (old : Int) :
    Takes given l.HasValue old (amount.getD old) := by
  cases given with
  | none =>
      cases hamount
      rfl
  | some m =>
      obtain ⟨units, hunits, rfl⟩ := map_eq_ok.mp hamount
      exact hasValue_of_units hunits

theorem editsIncome {edit : IncomeEdit} {amount : Option Int}
    (hamount : l.units? edit.amount = .ok amount) (row : IncomeRow) :
    EditsIncome l edit row (editedIncome edit amount row) :=
  ⟨rfl, takes_trimmed _ _, takes_trimmed _ _, takes_amount hamount _⟩

theorem editsPayment {edit : PaymentEdit} {cost : Option Int}
    (hcost : l.units? edit.cost = .ok cost) (row : PaymentRow) :
    EditsPayment l edit row (editedPayment edit cost row) :=
  ⟨rfl, takes_trimmed _ _, takes_type _ _, takes_trimmed _ _, takes_amount hcost _⟩

theorem editsSpend {edit : SpendEdit} {cost : Option Int}
    (hcost : l.units? edit.cost = .ok cost) (row : SpendRow) :
    EditsSpend l edit row (editedSpend edit cost row) :=
  ⟨rfl, takes_trimmed _ _, takes_type _ _, takes_trimmed _ _, takes_amount hcost _⟩

/-! ## Loaded months -/

/-- A month is loaded as it was before, with more entries after those of each list and new
balances. -/
def ShowsAlso (l final : Ledger) (monthId : Int) (incomes : List Income) (payments : List Payment)
    (spends : List Spend) : Prop :=
  ∃ before after, l.handle (.month monthId) = .ok (l.answer before) ∧
    final.handle (.month monthId) = .ok (final.answer after) ∧
    after.incomes = before.incomes ++ incomes ∧ after.payments = before.payments ++ payments ∧
    List.Forall₂ (fun old new : Day => new = { old with
      saldo := new.saldo
      spends := old.spends ++ spends.filter (·.dayId = old.id) }) before.days after.days

/-- Rows that are appended to the tables are shown in the months and days that they belong to. -/
theorem DiffersInFigures.showsAlso {middle final : Ledger} {target : Option Int}
    (hdiffers : DiffersInFigures middle final target) (incomes : List IncomeRow)
    (payments : List PaymentRow) (spends : List SpendRow)
    (hmiddle : middle = { l with
      incomes := l.incomes ++ incomes
      payments := l.payments ++ payments
      spends := l.spends ++ spends
      counters := middle.counters })
    {id : Int} (hmonth : id ∈ Table.numbers l.months) :
    ShowsAlso l final id ((incomes.filter (·.monthId = id)).map l.incomeOf)
      ((payments.filter (·.monthId = id)).map l.paymentOf) (spends.map l.spendOf) := by
  -- With its tables written out, the last ledger is seen to have those of the first and the rows.
  obtain ⟨counters, rfl⟩ : ∃ counters, middle = { l with
      incomes := l.incomes ++ incomes
      payments := l.payments ++ payments
      spends := l.spends ++ spends
      counters } := ⟨_, hmiddle⟩
  obtain ⟨months, days, rfl⟩ : ∃ months days, final = { l with
      months
      days
      incomes := l.incomes ++ incomes
      payments := l.payments ++ payments
      spends := l.spends ++ spends
      counters } := ⟨_, _, hdiffers.rest⟩
  obtain ⟨row, hrow⟩ := Table.find?_isSome_iff.mpr hmonth
  obtain ⟨new, hnew, _⟩ := Table.find?_of_forall₂ hdiffers.months
    (fun old new hrelated => by rw [hrelated.1]; rfl) hrow
  have hid := (Table.mem_of_find? hrow).2
  have hnewId := (Table.mem_of_find? hnew).2
  rw [number_monthRow] at hid hnewId
  refine ⟨_, _, handle_month hrow, handle_month hnew, ?_, ?_, ?_⟩
  · simp only [monthOf, hid, hnewId, List.filter_append, List.map_append]
    rfl
  · simp only [monthOf, hid, hnewId, List.filter_append, List.map_append]
    rfl
  · simp only [monthOf, hid, hnewId, List.forall₂_map_left_iff, List.forall₂_map_right_iff]
    refine List.Forall₂.imp ?_ (List.rel_filter ?_ hdiffers.days)
    · rintro old new ⟨hsame, _⟩
      rw [hsame]
      simp only [dayOf, List.filter_append, List.map_append, List.filter_map]
      rfl
    · rintro old new ⟨hsame, _⟩
      rw [hsame]

/-! ## Effects -/

/-- What a change of entries that succeeds has done to the ledger, from its answer. -/
def HasEffect (l final : Ledger) : {α : Type} → Request α → α → Prop
  | _, .addIncome income, id =>
    ∃ row : IncomeRow, l.HasValue income.amount row.amount ∧
      row = ⟨id, income.monthId, Text.trim income.title, Text.trim income.notes, row.amount⟩ ∧
      DiffersInFigures { l with
        incomes := l.incomes ++ [row], counters := { l.counters with income := id } } final
        (some income.monthId) ∧
      ShowsAlso l final income.monthId [l.incomeOf row] [] []
  | _, .editIncome edit, _ =>
    ∃ row ∈ l.incomes, row.id = edit.id ∧
      ∃ incomes, Table.EditsRow edit.id (EditsIncome l edit) l.incomes incomes ∧
        DiffersInFigures { l with incomes } final (edit.amount.map fun _ => row.monthId)
  | _, .removeIncome id, _ =>
    ∃ row ∈ l.incomes, row.id = id ∧
      DiffersInFigures { l with incomes := l.incomes.filter (·.id != id) } final
        (some row.monthId)
  | _, .addPayment payment, id =>
    ∃ row : PaymentRow, l.HasValue payment.cost row.cost ∧
      row = ⟨id, payment.monthId, payment.typeId, Text.trim payment.title,
        Text.trim payment.notes, row.cost⟩ ∧
      DiffersInFigures { l with
        payments := l.payments ++ [row], counters := { l.counters with payment := id } } final
        (some payment.monthId) ∧
      ShowsAlso l final payment.monthId [] [l.paymentOf row] []
  | _, .editPayment edit, _ =>
    ∃ row ∈ l.payments, row.id = edit.id ∧
      ∃ payments, Table.EditsRow edit.id (EditsPayment l edit) l.payments payments ∧
        DiffersInFigures { l with payments } final (edit.cost.map fun _ => row.monthId)
  | _, .removePayment id, _ =>
    ∃ row ∈ l.payments, row.id = id ∧
      DiffersInFigures { l with payments := l.payments.filter (·.id != id) } final
        (some row.monthId)
  | _, .addSpend spend, id =>
    ∃ day ∈ l.days, day.id = spend.dayId ∧
      ∃ row : SpendRow, l.HasValue spend.cost row.cost ∧
        row = ⟨id, spend.dayId, spend.typeId, Text.trim spend.title, Text.trim spend.notes,
          row.cost⟩ ∧
        DiffersInFigures { l with
          spends := l.spends ++ [row], counters := { l.counters with spend := id } } final
          (some day.monthId) ∧
        ShowsAlso l final day.monthId [] [] [l.spendOf row]
  | _, .editSpend edit, _ =>
    ∃ row ∈ l.spends, row.id = edit.id ∧ ∃ day ∈ l.days, day.id = row.dayId ∧
      ∃ spends, Table.EditsRow edit.id (EditsSpend l edit) l.spends spends ∧
        DiffersInFigures { l with spends } final (edit.cost.map fun _ => day.monthId)
  | _, .removeSpend id, _ =>
    ∃ row ∈ l.spends, row.id = id ∧ ∃ day ∈ l.days, day.id = row.dayId ∧
      DiffersInFigures { l with spends := l.spends.filter (·.id != id) } final
        (some day.monthId)
  | _, _, _ => False

namespace Integrity

theorem addIncome_effect (h : Integrity l) {income : NewIncome} {reply : Reply Int}
    (hreply : l.handle (.addIncome income) = .ok reply) :
    l.HasEffect reply.ledger (.addIncome income) reply.value := by
  obtain ⟨_, hmonth, amount, hamount, hend⟩ := addIncome_eq_ok.mp hreply
  have hmem := Table.find?_isSome_iff.mp hmonth
  have hdiffers := (h.insertIncome hmem).differsInFigures (recomputed_of_settled hend)
  rw [value_of_settled hend]
  let row : IncomeRow := ⟨l.counters.income + 1, income.monthId, Text.trim income.title,
    Text.trim income.notes, amount⟩
  have hshows := hdiffers.showsAlso [row] [] [] (by simp [Ledger.insertIncome, row]) hmem
  refine ⟨row, hasValue_of_units hamount, rfl, hdiffers, ?_⟩
  simpa [row] using hshows

theorem editIncome_effect (h : Integrity l) {edit : IncomeEdit} {reply : Reply Unit}
    (hreply : l.handle (.editIncome edit) = .ok reply) :
    l.HasEffect reply.ledger (.editIncome edit) reply.value := by
  obtain ⟨_, row, hfind, amount, hamount, hend⟩ := editIncome_eq_ok.mp hreply
  obtain ⟨hrow, hid⟩ := Table.mem_of_find? hfind
  exact ⟨row, hrow, hid, _, Table.editsRow_modify fun row _ _ => editsIncome hamount row,
    (h.updateIncome edit amount).differsInFigures (recomputed_of_edited hend)⟩

theorem removeIncome_effect (h : Integrity l) {id : Int} {reply : Reply Unit}
    (hreply : l.handle (.removeIncome id) = .ok reply) :
    l.HasEffect reply.ledger (.removeIncome id) reply.value := by
  obtain ⟨row, hfind, hend⟩ := removeIncome_eq_ok.mp hreply
  obtain ⟨hrow, hid⟩ := Table.mem_of_find? hfind
  exact ⟨row, hrow, hid, (h.eraseIncome id).differsInFigures (recomputed_of_settled hend)⟩

theorem addPayment_effect (h : Integrity l) {payment : NewPayment} {reply : Reply Int}
    (hreply : l.handle (.addPayment payment) = .ok reply) :
    l.HasEffect reply.ledger (.addPayment payment) reply.value := by
  obtain ⟨_, hmonth, htype, cost, hcost, hend⟩ := addPayment_eq_ok.mp hreply
  have hmem := Table.find?_isSome_iff.mp hmonth
  have hdiffers := (h.insertPayment hmem htype).differsInFigures (recomputed_of_settled hend)
  rw [value_of_settled hend]
  let row : PaymentRow := ⟨l.counters.payment + 1, payment.monthId, payment.typeId,
    Text.trim payment.title, Text.trim payment.notes, cost⟩
  have hshows := hdiffers.showsAlso [] [row] [] (by simp [Ledger.insertPayment, row]) hmem
  refine ⟨row, hasValue_of_units hcost, rfl, hdiffers, ?_⟩
  simpa [row] using hshows

theorem editPayment_effect (h : Integrity l) {edit : PaymentEdit} {reply : Reply Unit}
    (hreply : l.handle (.editPayment edit) = .ok reply) :
    l.HasEffect reply.ledger (.editPayment edit) reply.value := by
  obtain ⟨_, row, hfind, htype, cost, hcost, hend⟩ := editPayment_eq_ok.mp hreply
  obtain ⟨hrow, hid⟩ := Table.mem_of_find? hfind
  exact ⟨row, hrow, hid, _, Table.editsRow_modify fun row _ _ => editsPayment hcost row,
    (h.updatePayment cost htype).differsInFigures (recomputed_of_edited hend)⟩

theorem removePayment_effect (h : Integrity l) {id : Int} {reply : Reply Unit}
    (hreply : l.handle (.removePayment id) = .ok reply) :
    l.HasEffect reply.ledger (.removePayment id) reply.value := by
  obtain ⟨row, hfind, hend⟩ := removePayment_eq_ok.mp hreply
  obtain ⟨hrow, hid⟩ := Table.mem_of_find? hfind
  exact ⟨row, hrow, hid, (h.erasePayment id).differsInFigures (recomputed_of_settled hend)⟩

theorem addSpend_effect (h : Integrity l) {spend : NewSpend} {reply : Reply Int}
    (hreply : l.handle (.addSpend spend) = .ok reply) :
    l.HasEffect reply.ledger (.addSpend spend) reply.value := by
  obtain ⟨_, day, hfind, htype, cost, hcost, hend⟩ := addSpend_eq_ok.mp hreply
  obtain ⟨hday, hid⟩ := Table.mem_of_find? hfind
  have hdiffers := (h.insertSpend (Table.mem_numbers_of_find? hfind) htype).differsInFigures
    (recomputed_of_settled hend)
  rw [value_of_settled hend]
  let row : SpendRow := ⟨l.counters.spend + 1, spend.dayId, spend.typeId,
    Text.trim spend.title, Text.trim spend.notes, cost⟩
  have hshows := hdiffers.showsAlso [] [] [row] (by simp [Ledger.insertSpend, row])
    (h.dayMonth day hday)
  refine ⟨day, hday, hid, row, hasValue_of_units hcost, rfl, hdiffers, ?_⟩
  simpa [row] using hshows

theorem editSpend_effect (h : Integrity l) {edit : SpendEdit} {reply : Reply Unit}
    (hreply : l.handle (.editSpend edit) = .ok reply) :
    l.HasEffect reply.ledger (.editSpend edit) reply.value := by
  obtain ⟨_, row, hfind, day, hfindDay, htype, cost, hcost, hend⟩ := editSpend_eq_ok.mp hreply
  obtain ⟨hrow, hid⟩ := Table.mem_of_find? hfind
  obtain ⟨hday, hdayId⟩ := Table.mem_of_find? hfindDay
  exact ⟨row, hrow, hid, day, hday, hdayId, _,
    Table.editsRow_modify fun row _ _ => editsSpend hcost row,
    (h.updateSpend cost htype).differsInFigures (recomputed_of_edited hend)⟩

theorem removeSpend_effect (h : Integrity l) {id : Int} {reply : Reply Unit}
    (hreply : l.handle (.removeSpend id) = .ok reply) :
    l.HasEffect reply.ledger (.removeSpend id) reply.value := by
  obtain ⟨row, hfind, day, hfindDay, hend⟩ := removeSpend_eq_ok.mp hreply
  obtain ⟨hrow, hid⟩ := Table.mem_of_find? hfind
  obtain ⟨hday, hdayId⟩ := Table.mem_of_find? hfindDay
  exact ⟨row, hrow, hid, day, hday, hdayId,
    (h.eraseSpend id).differsInFigures (recomputed_of_settled hend)⟩

theorem handle_effect (h : Integrity l) {α : Type} {request : Request α}
    (hchanges : request.ChangesEntries) {reply : Reply α}
    (hreply : l.handle request = .ok reply) : l.HasEffect reply.ledger request reply.value := by
  cases request with
  | addIncome income => exact h.addIncome_effect hreply
  | editIncome edit => exact h.editIncome_effect hreply
  | removeIncome id => exact h.removeIncome_effect hreply
  | addPayment payment => exact h.addPayment_effect hreply
  | editPayment edit => exact h.editPayment_effect hreply
  | removePayment id => exact h.removePayment_effect hreply
  | addSpend spend => exact h.addSpend_effect hreply
  | editSpend edit => exact h.editSpend_effect hreply
  | removeSpend id => exact h.removeSpend_effect hreply
  | _ => cases hchanges

end Integrity

/-! ## Every run -/

/-- After every run of a new ledger, a change of entries that succeeds has the effect that is meant
by it: the row that it is about is added, edited or removed, and nothing else changes but the
figures of the month that owns the row, if an amount is concerned. -/
theorem effect_run (currency : Currency) (operations : List Operation) {α : Type}
    (request : Request α) (hchanges : request.ChangesEntries) :
    let l := (Ledger.empty currency).run operations
    ∀ reply, l.handle request = .ok reply → l.HasEffect reply.ledger request reply.value := by
  intro l reply hreply
  have h : Integrity l := (Integrity.empty currency).run operations
  exact h.handle_effect hchanges hreply

/-- Two months with entries, of which a spend has a type. -/
def twoMonths : List Operation :=
  [⟨.openMonth 2024 2⟩, ⟨.openMonth 2024 3⟩, ⟨.addSpendType ⟨"Food", 0⟩⟩,
    ⟨.addIncome ⟨2, "Pay", ⟨310, 0⟩, ""⟩⟩, ⟨.addSpend ⟨3, "Tea", ⟨25, 1⟩, 1, "Leaves", .positive⟩⟩]

/-- The spend with another title and cost, and without a type. -/
def greenTea : SpendEdit :=
  ⟨1, some " Green tea ", some 0, none, some ⟨3, 0⟩, .positive⟩

theorem effect_twoMonths :
    let l := (Ledger.empty .gbp).run twoMonths
    ∃ reply, l.handle (.editSpend greenTea) = .ok reply ∧
      l.HasEffect reply.ledger (.editSpend greenTea) reply.value ∧
      l.spends = [⟨1, 3, 1, "Tea", "Leaves", 250⟩] ∧
      reply.ledger.spends = [⟨1, 3, 0, "Green tea", "Leaves", 300⟩] ∧
      reply.ledger.months =
        [⟨1, 2024, 2, 0, 0, -300, -300⟩, ⟨2, 2024, 3, 1000, 31000, 0, 31000⟩] := by
  intro l
  have hsucceeds : ∃ reply, l.handle (.editSpend greenTea) = .ok reply := by
    decide +kernel
  have hspends : l.spends = [⟨1, 3, 1, "Tea", "Leaves", 250⟩] := by
    decide +kernel
  have hafter : (l.after (.editSpend greenTea)).spends =
      [⟨1, 3, 0, "Green tea", "Leaves", 300⟩] ∧
      (l.after (.editSpend greenTea)).months =
        [⟨1, 2024, 2, 0, 0, -300, -300⟩, ⟨2, 2024, 3, 1000, 31000, 0, 31000⟩] := by
    decide +kernel
  obtain ⟨reply, hreply⟩ := hsucceeds
  rw [after_of_handle hreply] at hafter
  have heffect := effect_run .gbp twoMonths (.editSpend greenTea) trivial reply hreply
  exact ⟨reply, hreply, heffect, hspends, hafter⟩

end Allowance.Ledger
