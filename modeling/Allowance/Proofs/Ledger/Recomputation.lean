import Allowance.Proofs.Ledger.Settlement

/-!
# Recomputing a settled ledger

In every state that a new ledger comes to, a month that is recomputed stays as it is. An edit that
gives no amount leaves its month alone. Handling every such edit with a recomputation after all, and
failing where that fails, leads through the same states.
-/

namespace Allowance.Ledger

open Outcome

/-! ## A settled month -/

variable {l : Ledger} {row : MonthRow}

/-- A recomputation answers a settled month as it was loaded. -/
theorem SettledAt.recompute_eq_self (hsettled : l.SettledAt row)
    (hlength : Calendar.daysInMonth row.year row.month = .ok row.length) :
    (l.monthOf row).recompute none l.precision = .ok (l.monthOf row) := by
  have hsaldos : (l.daysOf row.id).map (fun day => (day.id, day.saldo)) =
      balancesFrom (l.computed row).dailyBudget 0 (l.spentByDay row.id) :=
    congrArg Figures.saldos hsettled.stored_eq
  have hdays : cascade ((l.daysOf row.id).map l.dayOf) (l.money (l.computed row).dailyBudget) =
      (l.daysOf row.id).map l.dayOf :=
    cascadeFrom_eq_self hsaldos
  rw [recompute_monthOf hlength, hdays, ← hsettled.stored_eq]
  rfl

/-- A settled month can be recomputed, and the ledger stays as it is. -/
theorem SettledAt.settle_eq_self (hsettled : l.SettledAt row) (h : Integrity l)
    (hrow : row ∈ l.months) : ∃ month, l.settle row.id = .ok (l, month) := by
  have hself : l = l.withFigures row.id (l.computed row) := by
    rw [← hsettled.stored_eq]
    exact (h.withFigures_stored_eq_self hrow).symm
  exact (h.recomputed_iff_storable hrow).mpr ⟨hsettled.stored_eq ▸ hsettled.storable, hself⟩

/-! ## Months stay -/

theorem Integrity.numbers_months_subset (h : Integrity l) {α : Type} {request : Request α}
    {reply : Reply α} (hreply : l.handle request = .ok reply) :
    Table.numbers l.months ⊆ Table.numbers reply.ledger.months := by
  obtain ⟨middle, target, hrevision, hfinal⟩ := h.exists_revision hreply
  have hmiddle : Table.numbers l.months ⊆ Table.numbers middle.months := by
    cases hrevision with
    | monthOpened year month days hmonth hfree hdays =>
        rw [Ledger.insertMonth, Table.numbers_append]
        exact List.subset_append_left _ _
    | _ => exact List.Subset.refl _
  rcases hfinal with hsame | ⟨id, f, hwritten⟩
  · exact hsame ▸ hmiddle
  · have hnumbers : Table.numbers reply.ledger.months = Table.numbers middle.months :=
      hwritten ▸ Table.numbers_modify fun _ => rfl
    exact hnumbers ▸ hmiddle

theorem Integrity.currency_eq (h : Integrity l) {α : Type} {request : Request α}
    {reply : Reply α} (hreply : l.handle request = .ok reply) :
    reply.ledger.currency = l.currency := by
  obtain ⟨middle, target, hrevision, hfinal⟩ := h.exists_revision hreply
  have hmiddle : middle.currency = l.currency := by
    cases hrevision <;> rfl
  rcases hfinal with hsame | ⟨id, f, hwritten⟩
  · exact hsame ▸ hmiddle
  · exact hwritten ▸ hmiddle

/-! ## Edits without an amount -/

/-- The month of the entry that an edit changes without giving an amount. -/
def skipped? (l : Ledger) {α : Type} : Request α → Option Int
  | .editIncome edit =>
    if edit.amount.isSome then none
    else (Table.find? l.incomes edit.id).map (·.monthId)
  | .editPayment edit =>
    if edit.cost.isSome then none
    else (Table.find? l.payments edit.id).map (·.monthId)
  | .editSpend edit =>
    if edit.cost.isSome then none
    else do
      let row ← Table.find? l.spends edit.id
      let day ← Table.find? l.days row.dayId
      return day.monthId
  | _ => none

/-- The ledger after a request that recomputes the month of an edit in any case. -/
def handleEagerly {α : Type} (l : Ledger) (request : Request α) : Except Failure Ledger := do
  let reply ← l.handle request
  match l.skipped? request with
  | some monthId => return (← reply.ledger.settle monthId).1
  | none => return reply.ledger

/-- The ledger after a request that recomputes eagerly, whether it succeeds or not. -/
def afterEagerly {α : Type} (l : Ledger) (request : Request α) : Ledger :=
  match l.handleEagerly request with
  | .ok final => final
  | .error _ => l

def runEagerly (l : Ledger) (operations : List Operation) : Ledger :=
  operations.foldl (fun l operation => l.afterEagerly operation.request) l

theorem Integrity.skipped?_mem (h : Integrity l) {α : Type} {request : Request α} {monthId : Int}
    (hskipped : l.skipped? request = some monthId) : monthId ∈ Table.numbers l.months := by
  cases request with
  | editIncome edit =>
      simp only [skipped?, Option.ite_none_left_eq_some, Option.map_eq_some_iff] at hskipped
      obtain ⟨_, row, hrow, rfl⟩ := hskipped
      exact h.incomeMonth row (Table.mem_of_find? hrow).1
  | editPayment edit =>
      simp only [skipped?, Option.ite_none_left_eq_some, Option.map_eq_some_iff] at hskipped
      obtain ⟨_, row, hrow, rfl⟩ := hskipped
      exact h.paymentMonth row (Table.mem_of_find? hrow).1
  | editSpend edit =>
      simp only [skipped?, Option.ite_none_left_eq_some] at hskipped
      obtain ⟨row, hrow, hskipped⟩ := Option.bind_eq_some_iff.mp hskipped.2
      obtain ⟨day, hday, hmonth⟩ := Option.bind_eq_some_iff.mp hskipped
      cases hmonth
      exact h.dayMonth day (Table.mem_of_find? hday).1
  | _ => cases hskipped

namespace Sound

/-- The recomputation that an edit skips succeeds and changes nothing. -/
theorem handleEagerly_eq (h : Sound l) {α : Type} (request : Request α) :
    l.handleEagerly request = (l.handle request).map (·.ledger) := by
  unfold handleEagerly
  cases hreply : l.handle request with
  | error why => rfl
  | ok reply =>
      cases hskipped : l.skipped? request with
      | none => rfl
      | some monthId =>
          -- The edit has left every month settled, the skipped one among them.
          have hfinal := h.handle hreply
          have hmonth := h.integrity.numbers_months_subset hreply
            (h.integrity.skipped?_mem hskipped)
          obtain ⟨row, hrow, rfl⟩ := Table.mem_numbers.mp hmonth
          obtain ⟨month, hsettle⟩ :=
            (hfinal.settled row hrow).settle_eq_self hfinal.integrity hrow
          change (do return (← reply.ledger.settle row.id).1) = _
          rw [hsettle]
          rfl

theorem afterEagerly_eq (h : Sound l) {α : Type} (request : Request α) :
    l.afterEagerly request = l.after request := by
  rw [afterEagerly, h.handleEagerly_eq]
  cases hreply : l.handle request with
  | ok reply => exact (after_of_handle hreply).symm
  | error why => exact (after_of_error hreply).symm

theorem runEagerly_eq (h : Sound l) (operations : List Operation) :
    l.runEagerly operations = l.run operations := by
  induction operations generalizing l with
  | nil => rfl
  | cons operation rest ih =>
      change (l.afterEagerly operation.request).runEagerly rest = _
      rw [h.afterEagerly_eq, ih (h.after operation.request), run_cons]

end Sound

/-! ## Every run -/

theorem currency_run (currency : Currency) (operations : List Operation) :
    ((Ledger.empty currency).run operations).currency = currency :=
  (run_invariant (fun l => Integrity l ∧ l.currency = currency)
    (fun _ _ _ _ hl hreply => ⟨hl.1.handle hreply, (hl.1.currency_eq hreply).trans hl.2⟩)
    ⟨.empty currency, rfl⟩ operations).2

/-- After every run of a new ledger, each month is loaded, is as its entries give it, and stays as
it is when it is recomputed; recomputing it after every edit leads to the same state. -/
theorem recompute_run_eq_self (currency : Currency) (operations : List Operation) :
    let l := (Ledger.empty currency).run operations
    (∀ row ∈ l.months, l.stored row = l.computed row ∧
      ∃ month, l.handle (.month row.id) = .ok (l.answer month) ∧
        month.recompute none currency.precision = .ok month) ∧
      (Ledger.empty currency).runEagerly operations = l := by
  intro l
  have hsound : Sound l := (Sound.empty currency).run operations
  refine ⟨?_, (Sound.empty currency).runEagerly_eq operations⟩
  intro row hrow
  have hsettled := hsound.settled row hrow
  have hprecision : l.precision = currency.precision :=
    congrArg Currency.precision (currency_run currency operations)
  refine ⟨hsettled.stored_eq, l.monthOf row, handle_month (hsound.integrity.find?_month hrow), ?_⟩
  rw [← hprecision]
  exact hsettled.recompute_eq_self (hsound.integrity.calendar row hrow).1

/-- A month with an income and a spend, whose title is edited without its cost. -/
def renamedSpend : List Operation :=
  [⟨.openMonth 2024 2⟩, ⟨.addIncome ⟨1, "Pay", ⟨100000, 2⟩, ""⟩⟩,
    ⟨.addSpend ⟨3, "Tea", ⟨250, 2⟩, 0, "", .positive⟩⟩,
    ⟨.editSpend ⟨1, some "Green tea", none, none, none, .positive⟩⟩]

theorem recompute_renamedSpend :
    ∃ row : MonthRow, row = ⟨1, 2024, 2, 3448, 100000, -250, 99750⟩ ∧
      row ∈ ((Ledger.empty .gbp).run renamedSpend).months ∧
      ((Ledger.empty .gbp).run renamedSpend).stored row =
        ((Ledger.empty .gbp).run renamedSpend).computed row ∧
      (Ledger.empty .gbp).runEagerly renamedSpend = (Ledger.empty .gbp).run renamedSpend := by
  have hrow : ⟨1, 2024, 2, 3448, 100000, -250, 99750⟩ ∈
      ((Ledger.empty .gbp).run renamedSpend).months := by
    decide +kernel
  obtain ⟨hsettled, heager⟩ := recompute_run_eq_self .gbp renamedSpend
  exact ⟨_, rfl, hrow, (hsettled _ hrow).1, heager⟩

end Allowance.Ledger
