import Allowance.Proofs.Ledger.Recomputation

/-!
# What stays in a ledger

A row stays in its table until the request comes that removes exactly this row, and months and days
stay for good, under the dates that they were opened with. For this reason a number that one request
has answered means the same row in every later one, whatever other requests came in between.
-/

namespace Allowance.Ledger

open Outcome

/-! ## Rows -/

/-- Whether a ledger has a row of a kind under a number. -/
def HasRow (l : Ledger) (id : Int) : Entity → Prop
  | .month => id ∈ Table.numbers l.months
  | .day => id ∈ Table.numbers l.days
  | .income => id ∈ Table.numbers l.incomes
  | .payment => id ∈ Table.numbers l.payments
  | .spend => id ∈ Table.numbers l.spends
  | .spendType => id ∈ Table.numbers l.types

/-- Whether an operation asks for the removal of a row; there is none for months and days. -/
def Operation.Removes (id : Int) : Operation → Entity → Prop
  | ⟨.removeIncome removed⟩, .income => removed = id
  | ⟨.removePayment removed⟩, .payment => removed = id
  | ⟨.removeSpend removed⟩, .spend => removed = id
  | ⟨.removeSpendType removed⟩, .spendType => removed = id
  | _, _ => False

variable {l middle final : Ledger} {id : Int} {what : Entity}

/-- A recomputation writes to rows of months and days and leaves their numbers alone. -/
theorem Recomputed.numbers_eq {target : Option Int} (h : Recomputed l target final) :
    Table.numbers final.months = Table.numbers l.months ∧
      Table.numbers final.days = Table.numbers l.days := by
  cases target with
  | none =>
      obtain rfl : final = l := h
      exact ⟨rfl, rfl⟩
  | some monthId =>
      obtain ⟨month, hsettle⟩ := h
      simp only [settle, saveMonth, bind_eq_ok, pure_eq_ok] at hsettle
      obtain ⟨_, _, _, _, _, ⟨_, _, _, _, _, _, _, _, saldos, _, rfl⟩, hend⟩ := hsettle
      cases hend
      refine ⟨Table.numbers_modify fun _ => rfl, ?_⟩
      simp [Table.numbers, Function.comp_def]

/-- A recomputation gives no row a number and takes none away. -/
theorem Recomputed.hasRow_iff {target : Option Int} (h : Recomputed l target final) :
    final.HasRow id what ↔ l.HasRow id what := by
  obtain ⟨hmonths, hdays⟩ := h.numbers_eq
  obtain ⟨_, _, hrest⟩ := h.exists_eq
  cases what with
  | month => rw [HasRow, HasRow, hmonths]
  | day => rw [HasRow, HasRow, hdays]
  | _ =>
      rw [hrest]
      exact Iff.rfl

theorem mem_numbers_append {α : Type} [Numbered α] {rows : List α} (hid : id ∈ Table.numbers rows)
    (more : List α) : id ∈ Table.numbers (rows ++ more) := by
  rw [Table.numbers_append]
  exact List.mem_append_left _ hid

theorem mem_numbers_modify {α : Type} [Numbered α] {rows : List α} {edited : Int}
    {change : α → α} (hkeep : ∀ row, Numbered.number (change row) = Numbered.number row)
    (hid : id ∈ Table.numbers rows) : id ∈ Table.numbers (Table.modify rows edited change) := by
  rw [Table.numbers_modify hkeep]
  exact hid

theorem mem_numbers_erase {α : Type} [Numbered α] {rows : List α} {removed : Int}
    (hid : id ∈ Table.numbers rows) :
    id ∈ Table.numbers (Table.erase rows removed) ∨ removed = id := by
  by_cases heq : removed = id
  · exact .inr heq
  · obtain ⟨row, hrow, rfl⟩ := Table.mem_numbers.mp hid
    exact .inl (Table.number_mem (Table.mem_erase.mpr ⟨hrow, fun h => heq h.symm⟩))

/-- Before its recomputation a request has left every row but the one that it removes. -/
theorem HasRow.exists_middle (hrow : l.HasRow id what) {α : Type} {request : Request α}
    {reply : Reply α} (hreply : l.handle request = .ok reply) :
    ∃ middle target, Recomputed middle target reply.ledger ∧
      (middle.HasRow id what ∨ Operation.Removes id ⟨request⟩ what) := by
  -- A request is about the rows of one kind; all other tables are those of the ledger before it.
  cases request with
  | openMonth year month =>
      obtain ⟨_, _, ⟨row, _, rfl⟩ | ⟨_, days, _, rfl⟩⟩ := openMonth_eq_ok.mp hreply
      · exact ⟨l, none, rfl, .inl hrow⟩
      · refine ⟨l.insertMonth year month days, none, rfl, .inl ?_⟩
        cases what with
        | month | day => exact mem_numbers_append hrow _
        | _ => exact hrow
  | addIncome income =>
      obtain ⟨_, _, amount, _, hend⟩ := addIncome_eq_ok.mp hreply
      refine ⟨_, _, recomputed_of_settled hend, .inl ?_⟩
      cases what with
      | income => exact mem_numbers_append hrow _
      | _ => exact hrow
  | editIncome edit =>
      obtain ⟨_, row, _, amount, _, hend⟩ := editIncome_eq_ok.mp hreply
      refine ⟨_, _, recomputed_of_edited hend, .inl ?_⟩
      cases what with
      | income => exact mem_numbers_modify (fun _ => rfl) hrow
      | _ => exact hrow
  | removeIncome removed =>
      obtain ⟨row, _, hend⟩ := removeIncome_eq_ok.mp hreply
      refine ⟨_, _, recomputed_of_settled hend, ?_⟩
      cases what with
      | income => exact mem_numbers_erase hrow
      | _ => exact .inl hrow
  | addPayment payment =>
      obtain ⟨_, _, _, cost, _, hend⟩ := addPayment_eq_ok.mp hreply
      refine ⟨_, _, recomputed_of_settled hend, .inl ?_⟩
      cases what with
      | payment => exact mem_numbers_append hrow _
      | _ => exact hrow
  | editPayment edit =>
      obtain ⟨_, row, _, _, cost, _, hend⟩ := editPayment_eq_ok.mp hreply
      refine ⟨_, _, recomputed_of_edited hend, .inl ?_⟩
      cases what with
      | payment => exact mem_numbers_modify (fun _ => rfl) hrow
      | _ => exact hrow
  | removePayment removed =>
      obtain ⟨row, _, hend⟩ := removePayment_eq_ok.mp hreply
      refine ⟨_, _, recomputed_of_settled hend, ?_⟩
      cases what with
      | payment => exact mem_numbers_erase hrow
      | _ => exact .inl hrow
  | addSpend spend =>
      obtain ⟨_, day, _, _, cost, _, hend⟩ := addSpend_eq_ok.mp hreply
      refine ⟨_, _, recomputed_of_settled hend, .inl ?_⟩
      cases what with
      | spend => exact mem_numbers_append hrow _
      | _ => exact hrow
  | editSpend edit =>
      obtain ⟨_, row, _, day, _, _, cost, _, hend⟩ := editSpend_eq_ok.mp hreply
      refine ⟨_, _, recomputed_of_edited hend, .inl ?_⟩
      cases what with
      | spend => exact mem_numbers_modify (fun _ => rfl) hrow
      | _ => exact hrow
  | removeSpend removed =>
      obtain ⟨row, _, day, _, hend⟩ := removeSpend_eq_ok.mp hreply
      refine ⟨_, _, recomputed_of_settled hend, ?_⟩
      cases what with
      | spend => exact mem_numbers_erase hrow
      | _ => exact .inl hrow
  | addSpendType type =>
      obtain ⟨_, _, rfl⟩ := addSpendType_eq_ok.mp hreply
      refine ⟨l.insertType type, none, rfl, .inl ?_⟩
      cases what with
      | spendType => exact mem_numbers_append hrow _
      | _ => exact hrow
  | editSpendType edit =>
      obtain ⟨_, _, _, rfl⟩ := editSpendType_eq_ok.mp hreply
      refine ⟨l.updateType edit, none, rfl, .inl ?_⟩
      cases what with
      | spendType => exact mem_numbers_modify (fun _ => rfl) hrow
      | _ => exact hrow
  | removeSpendType removed =>
      obtain ⟨_, _, rfl⟩ := removeSpendType_eq_ok.mp hreply
      refine ⟨l.eraseType removed, none, rfl, ?_⟩
      cases what with
      | spendType => exact mem_numbers_erase hrow
      | _ => exact .inl hrow
  | _ => exact ⟨l, none, Operation.IsReading.ledger_eq (by exact True.intro) hreply, .inl hrow⟩

/-- A request leaves every row in its table but the one that it removes. -/
theorem HasRow.handle (hrow : l.HasRow id what) {α : Type} {request : Request α}
    {reply : Reply α} (hreply : l.handle request = .ok reply) :
    reply.ledger.HasRow id what ∨ Operation.Removes id ⟨request⟩ what := by
  obtain ⟨middle, target, hrecomputed, hmiddle⟩ := hrow.exists_middle hreply
  exact hmiddle.imp_left hrecomputed.hasRow_iff.mpr

/-! ## Dates -/

/-- A number is that of a month of a year. -/
def IsMonth (l : Ledger) (id year month : Int) : Prop :=
  ∃ row ∈ l.months, row.id = id ∧ row.year = year ∧ row.month = month

/-- A number is that of the day of a date. -/
def IsDay (l : Ledger) (id : Int) (date : Date) : Prop :=
  ∃ day ∈ l.days, day.id = id ∧ day.day = date.day ∧ l.IsMonth day.monthId date.year date.month

/-- Whatever a month or a day of one ledger is called in another, it has the same date there. -/
structure KeepsDates (l final : Ledger) : Prop where
  months : ∀ row ∈ l.months, final.IsMonth row.id row.year row.month
  days : ∀ day ∈ l.days, ∃ new ∈ final.days, new.id = day.id ∧ new.monthId = day.monthId ∧
    new.day = day.day

theorem KeepsDates.refl (l : Ledger) : KeepsDates l l :=
  ⟨fun row hrow => ⟨row, hrow, rfl, rfl, rfl⟩, fun day hday => ⟨day, hday, rfl, rfl, rfl⟩⟩

theorem IsMonth.of_keepsDates {year month : Int} (h : l.IsMonth id year month)
    (hkeeps : KeepsDates l final) : final.IsMonth id year month := by
  obtain ⟨row, hrow, rfl, rfl, rfl⟩ := h
  exact hkeeps.months row hrow

theorem IsDay.of_keepsDates {date : Date} (h : l.IsDay id date) (hkeeps : KeepsDates l final) :
    final.IsDay id date := by
  obtain ⟨day, hday, rfl, hnumber, hmonth⟩ := h
  obtain ⟨new, hnew, hid, hmonthId, hday⟩ := hkeeps.days day hday
  refine ⟨new, hnew, hid, hday.trans hnumber, ?_⟩
  rw [hmonthId]
  exact hmonth.of_keepsDates hkeeps

theorem KeepsDates.trans (hfirst : KeepsDates l middle) (hsecond : KeepsDates middle final) :
    KeepsDates l final := by
  refine ⟨fun row hrow => (hfirst.months row hrow).of_keepsDates hsecond, fun day hday => ?_⟩
  obtain ⟨new, hnew, hid, hmonth, hnumber⟩ := hfirst.days day hday
  obtain ⟨last, hlast, hlastId, hlastMonth, hlastNumber⟩ := hsecond.days new hnew
  exact ⟨last, hlast, hlastId.trans hid, hlastMonth.trans hmonth, hlastNumber.trans hnumber⟩

theorem keepsDates_withFigures (l : Ledger) (monthId : Int) (f : Figures) :
    KeepsDates l (l.withFigures monthId f) := by
  constructor
  · intro row hrow
    refine ⟨_, Table.mem_modify.mpr ⟨row, hrow, rfl⟩, ?_⟩
    split <;> exact ⟨rfl, rfl, rfl⟩
  · intro day hday
    exact ⟨withBalance f.saldos day, List.mem_map_of_mem hday, by simp⟩

theorem Revision.keepsDates {target : Option Int} (h : Revision l middle target) :
    KeepsDates l middle := by
  cases h with
  | monthOpened year month days hmonth hfree hdays =>
      exact ⟨fun row hrow => ⟨row, List.mem_append_left _ hrow, rfl, rfl, rfl⟩,
        fun day hday => ⟨day, List.mem_append_left _ hday, rfl, rfl, rfl⟩⟩
  | _ => exact ⟨(KeepsDates.refl l).months, (KeepsDates.refl l).days⟩

/-- No request changes the date of a month or a day. -/
theorem Integrity.keepsDates (h : Integrity l) {α : Type} {request : Request α}
    {reply : Reply α} (hreply : l.handle request = .ok reply) : KeepsDates l reply.ledger := by
  obtain ⟨middle, target, hrevision, hfinal⟩ := h.exists_revision hreply
  rcases hfinal with hsame | ⟨monthId, f, hwritten⟩
  · exact hsame ▸ hrevision.keepsDates
  · exact hwritten ▸ hrevision.keepsDates.trans (keepsDates_withFigures middle monthId f)

theorem Integrity.keepsDates_run (h : Integrity l) (operations : List Operation) :
    KeepsDates l (l.run operations) :=
  (run_invariant (fun final => Integrity final ∧ KeepsDates l final)
    (fun _ _ _ _ hl hreply => ⟨hl.1.handle hreply, hl.2.trans (hl.1.keepsDates hreply)⟩)
    ⟨h, .refl l⟩ operations).2

theorem openMonth_isMonth {year month : Int} {reply : Reply Int}
    (hreply : l.handle (.openMonth year month) = .ok reply) :
    reply.ledger.IsMonth reply.value year month := by
  obtain ⟨_, _, ⟨row, hrow, rfl⟩ | ⟨_, days, _, rfl⟩⟩ := openMonth_eq_ok.mp hreply
  · have hdate := List.find?_some hrow
    simp only [Bool.and_eq_true, beq_iff_eq] at hdate
    exact ⟨row, List.mem_of_find?_eq_some hrow, rfl, hdate⟩
  · exact ⟨_, List.mem_append_right _ (List.mem_singleton_self _), rfl, rfl, rfl⟩

theorem dayOn_isDay {date : Date} {reply : Reply Int}
    (hreply : l.handle (.dayOn date) = .ok reply) : l.IsDay reply.value date := by
  obtain ⟨id, hid, rfl⟩ := (read_eq_ok rfl).mp hreply
  unfold dayOn at hid
  dsimp only at hid
  split at hid
  next day hfound =>
    cases hid
    obtain ⟨month, hmonth, hday⟩ := Option.bind_eq_some_iff.mp hfound
    have hdate := List.find?_some hmonth
    have hnumber := List.find?_some hday
    simp only [Bool.and_eq_true, beq_iff_eq] at hdate hnumber
    exact ⟨day, List.mem_of_find?_eq_some hday, rfl, hnumber.2, month,
      List.mem_of_find?_eq_some hmonth, hnumber.1.symm, hdate⟩
  next => cases hid

/-! ## New rows -/

theorem addIncome_mem {income : NewIncome} {reply : Reply Int}
    (hreply : l.handle (.addIncome income) = .ok reply) :
    ∃ row ∈ reply.ledger.incomes, row.id = reply.value ∧ row.monthId = income.monthId ∧
      row.title = Text.trim income.title := by
  obtain ⟨_, _, amount, _, hend⟩ := addIncome_eq_ok.mp hreply
  obtain ⟨_, _, hfinal⟩ := (recomputed_of_settled hend).exists_eq
  rw [value_of_settled hend, hfinal]
  exact ⟨_, List.mem_append_right _ (List.mem_singleton_self _), rfl, rfl, rfl⟩

theorem addPayment_mem {payment : NewPayment} {reply : Reply Int}
    (hreply : l.handle (.addPayment payment) = .ok reply) :
    ∃ row ∈ reply.ledger.payments, row.id = reply.value ∧ row.monthId = payment.monthId ∧
      row.title = Text.trim payment.title := by
  obtain ⟨_, _, _, cost, _, hend⟩ := addPayment_eq_ok.mp hreply
  obtain ⟨_, _, hfinal⟩ := (recomputed_of_settled hend).exists_eq
  rw [value_of_settled hend, hfinal]
  exact ⟨_, List.mem_append_right _ (List.mem_singleton_self _), rfl, rfl, rfl⟩

theorem addSpend_mem {spend : NewSpend} {reply : Reply Int}
    (hreply : l.handle (.addSpend spend) = .ok reply) :
    ∃ row ∈ reply.ledger.spends, row.id = reply.value ∧ row.dayId = spend.dayId ∧
      row.title = Text.trim spend.title := by
  obtain ⟨_, day, _, _, cost, _, hend⟩ := addSpend_eq_ok.mp hreply
  obtain ⟨_, _, hfinal⟩ := (recomputed_of_settled hend).exists_eq
  rw [value_of_settled hend, hfinal]
  exact ⟨_, List.mem_append_right _ (List.mem_singleton_self _), rfl, rfl, rfl⟩

end Allowance.Ledger
