import Allowance.Proofs.Calendar.Period
import Allowance.Proofs.Ledger.Persistence

/-!
# Numbers that are given out

The counter of a table is never below a number that a row of it has had, and no request turns it
back. So a new row gets a number that is greater than all before it, even if the rows of greater
numbers are gone or additions have failed in between. A number means one row, from the request that
adds it to the request that removes it, and a month or a day keeps its date.
-/

namespace Allowance.Table

variable {α : Type} [Numbered α] {rows : List α} {id : Int}

theorem mem_numbers_append_row {row : α} :
    id ∈ numbers (rows ++ [row]) ↔ id ∈ numbers rows ∨ id = Numbered.number row := by
  simp [numbers]

theorem mem_numbers_of_modify {edited : Int} {change : α → α}
    (hid : id ∈ numbers (modify rows edited change))
    (hkeep : ∀ row, Numbered.number (change row) = Numbered.number row) : id ∈ numbers rows := by
  rw [numbers_modify hkeep] at hid
  exact hid

theorem mem_numbers_of_erase {removed : Int} (hid : id ∈ numbers (erase rows removed)) :
    id ∈ numbers rows := by
  obtain ⟨row, hrow, rfl⟩ := mem_numbers.mp hid
  exact number_mem (mem_erase.mp hrow).1

end Allowance.Table

namespace Allowance.Ledger

open Outcome

/-- The numbers of all rows of a kind. -/
def numbersOf (l : Ledger) : Entity → List Int
  | .month => Table.numbers l.months
  | .day => Table.numbers l.days
  | .income => Table.numbers l.incomes
  | .payment => Table.numbers l.payments
  | .spend => Table.numbers l.spends
  | .spendType => Table.numbers l.types

theorem hasRow_iff_mem {l : Ledger} {id : Int} {what : Entity} :
    l.HasRow id what ↔ id ∈ l.numbersOf what := by
  cases what <;> exact Iff.rfl

instance (l : Ledger) (id : Int) (what : Entity) : Decidable (l.HasRow id what) :=
  decidable_of_iff _ hasRow_iff_mem.symm

/-- The last number given out to rows of a kind. -/
def Counters.last (c : Counters) : Entity → Int
  | .month => c.month
  | .day => c.day
  | .income => c.income
  | .payment => c.payment
  | .spend => c.spend
  | .spendType => c.spendType

/-- An operation gives a number to a new row and answers it. New days are numbered along with the
month that is answered. -/
def Operation.Gives (l : Ledger) (id : Int) (what : Entity) (operation : Operation) : Prop :=
  ∃ (request : Request Int) (reply : Reply Int), operation = ⟨request⟩ ∧
    l.handle request = .ok reply ∧
    match what with
    | .day => ∃ day ∈ reply.ledger.days, day.id = id ∧ day.monthId = reply.value
    | _ => id = reply.value

variable {l middle final : Ledger} {id : Int} {what : Entity}

theorem Integrity.ascending (h : Integrity l) (what : Entity) :
    (l.numbersOf what).Pairwise (· < ·) := by
  cases what with
  | month => exact h.months.sorted
  | day => exact h.days.sorted
  | income => exact h.incomes.sorted
  | payment => exact h.payments.sorted
  | spend => exact h.spends.sorted
  | spendType => exact h.types.sorted

theorem Integrity.le_last (h : Integrity l) (hrow : l.HasRow id what) :
    id ≤ l.counters.last what := by
  cases what with
  | month => exact h.months.given id hrow
  | day => exact h.days.given id hrow
  | income => exact h.incomes.given id hrow
  | payment => exact h.payments.given id hrow
  | spend => exact h.spends.given id hrow
  | spendType => exact h.types.given id hrow

/-! ## One request -/

/-- A revision turns no counter back. -/
theorem Revision.last_le {target : Option Int} (h : Revision l middle target) (what : Entity) :
    l.counters.last what ≤ middle.counters.last what := by
  cases h with
  | monthOpened year month days hmonth hfree hdays =>
      cases what with
      | month => exact Int.le_add_one (Int.le_refl _)
      | day => exact Int.le_add_of_nonneg_right (Int.natCast_nonneg days)
      | _ => exact Int.le_refl _
  | incomeAdded | paymentAdded | spendAdded | typeAdded =>
      cases what <;> first | exact Int.le_add_one (Int.le_refl _) | exact Int.le_refl _
  | _ => exact Int.le_refl _

theorem last_le_handle {α : Type} {request : Request α} {reply : Reply α}
    (hreply : l.handle request = .ok reply) (what : Entity) :
    l.counters.last what ≤ reply.ledger.counters.last what := by
  obtain ⟨middle, target, hrevision, hrecomputed⟩ := handle_eq_ok hreply
  obtain ⟨_, _, hfinal⟩ := hrecomputed.exists_eq
  rw [hfinal]
  exact hrevision.last_le what

/-- A request that adds a row under the next number gives it that number. -/
theorem gives_next {request : Request Int} {reply : Reply Int}
    (hreply : l.handle request = .ok reply) (hvalue : reply.value = l.counters.last what + 1)
    (hid : id = l.counters.last what + 1) (hwhat : what ≠ .day) :
    l.counters.last what < id ∧ Operation.Gives l id what ⟨request⟩ := by
  refine ⟨by omega, request, reply, rfl, hreply, ?_⟩
  cases what with
  | day => exact absurd rfl hwhat
  | _ => exact hid.trans hvalue.symm

/-- A row was there before the request, or it is new under a number after the last one, and this
number is the answer. -/
theorem HasRow.before {α : Type} {request : Request α} {reply : Reply α}
    (hreply : l.handle request = .ok reply) (hrow : reply.ledger.HasRow id what) :
    l.HasRow id what ∨ l.counters.last what < id ∧ Operation.Gives l id what ⟨request⟩ := by
  -- A request is about the rows of one kind; all other tables are those of the ledger before it.
  cases request with
  | openMonth year month =>
      obtain ⟨_, _, ⟨row, _, rfl⟩ | ⟨_, days, _, rfl⟩⟩ := openMonth_eq_ok.mp hreply
      · exact .inl hrow
      · cases what with
        | month =>
            exact (Table.mem_numbers_append_row.mp hrow).imp_right fun hid =>
              gives_next hreply rfl hid nofun
        | day =>
            obtain ⟨day, hday, rfl⟩ := Table.mem_numbers.mp hrow
            rcases List.mem_append.mp hday with hold | hnew
            · exact .inl (Table.number_mem hold)
            · obtain ⟨i, _, rfl⟩ := List.mem_map.mp hnew
              refine .inr ⟨?_, _, _, rfl, hreply, _, hday, rfl, rfl⟩
              simp only [Counters.last, number_dayRow]
              omega
        | _ => exact .inl hrow
  | addIncome income =>
      obtain ⟨_, _, amount, _, hend⟩ := addIncome_eq_ok.mp hreply
      have hmiddle := (recomputed_of_settled hend).hasRow_iff.mp hrow
      cases what with
      | income =>
          exact (Table.mem_numbers_append_row.mp hmiddle).imp_right fun hid =>
            gives_next hreply (value_of_settled hend) hid nofun
      | _ => exact .inl hmiddle
  | editIncome edit =>
      obtain ⟨_, row, _, amount, _, hend⟩ := editIncome_eq_ok.mp hreply
      have hmiddle := (recomputed_of_edited hend).hasRow_iff.mp hrow
      cases what with
      | income => exact .inl (Table.mem_numbers_of_modify hmiddle fun _ => rfl)
      | _ => exact .inl hmiddle
  | removeIncome removed =>
      obtain ⟨row, _, hend⟩ := removeIncome_eq_ok.mp hreply
      have hmiddle := (recomputed_of_settled hend).hasRow_iff.mp hrow
      cases what with
      | income => exact .inl (Table.mem_numbers_of_erase hmiddle)
      | _ => exact .inl hmiddle
  | addPayment payment =>
      obtain ⟨_, _, _, cost, _, hend⟩ := addPayment_eq_ok.mp hreply
      have hmiddle := (recomputed_of_settled hend).hasRow_iff.mp hrow
      cases what with
      | payment =>
          exact (Table.mem_numbers_append_row.mp hmiddle).imp_right fun hid =>
            gives_next hreply (value_of_settled hend) hid nofun
      | _ => exact .inl hmiddle
  | editPayment edit =>
      obtain ⟨_, row, _, _, cost, _, hend⟩ := editPayment_eq_ok.mp hreply
      have hmiddle := (recomputed_of_edited hend).hasRow_iff.mp hrow
      cases what with
      | payment => exact .inl (Table.mem_numbers_of_modify hmiddle fun _ => rfl)
      | _ => exact .inl hmiddle
  | removePayment removed =>
      obtain ⟨row, _, hend⟩ := removePayment_eq_ok.mp hreply
      have hmiddle := (recomputed_of_settled hend).hasRow_iff.mp hrow
      cases what with
      | payment => exact .inl (Table.mem_numbers_of_erase hmiddle)
      | _ => exact .inl hmiddle
  | addSpend spend =>
      obtain ⟨_, day, _, _, cost, _, hend⟩ := addSpend_eq_ok.mp hreply
      have hmiddle := (recomputed_of_settled hend).hasRow_iff.mp hrow
      cases what with
      | spend =>
          exact (Table.mem_numbers_append_row.mp hmiddle).imp_right fun hid =>
            gives_next hreply (value_of_settled hend) hid nofun
      | _ => exact .inl hmiddle
  | editSpend edit =>
      obtain ⟨_, row, _, day, _, _, cost, _, hend⟩ := editSpend_eq_ok.mp hreply
      have hmiddle := (recomputed_of_edited hend).hasRow_iff.mp hrow
      cases what with
      | spend => exact .inl (Table.mem_numbers_of_modify hmiddle fun _ => rfl)
      | _ => exact .inl hmiddle
  | removeSpend removed =>
      obtain ⟨row, _, day, _, hend⟩ := removeSpend_eq_ok.mp hreply
      have hmiddle := (recomputed_of_settled hend).hasRow_iff.mp hrow
      cases what with
      | spend => exact .inl (Table.mem_numbers_of_erase hmiddle)
      | _ => exact .inl hmiddle
  | addSpendType type =>
      obtain ⟨_, _, rfl⟩ := addSpendType_eq_ok.mp hreply
      cases what with
      | spendType =>
          exact (Table.mem_numbers_append_row.mp hrow).imp_right fun hid =>
            gives_next hreply rfl hid nofun
      | _ => exact .inl hrow
  | editSpendType edit =>
      obtain ⟨_, _, _, rfl⟩ := editSpendType_eq_ok.mp hreply
      cases what with
      | spendType => exact .inl (Table.mem_numbers_of_modify hrow fun _ => rfl)
      | _ => exact .inl hrow
  | removeSpendType removed =>
      obtain ⟨_, _, rfl⟩ := removeSpendType_eq_ok.mp hreply
      cases what with
      | spendType => exact .inl (Table.mem_numbers_of_erase hrow)
      | _ => exact .inl hrow
  | _ => exact .inl (Operation.IsReading.ledger_eq (by exact True.intro) hreply ▸ hrow)

/-! ## Dates -/

theorem Integrity.isMonth_unique (h : Integrity l) {year month otherYear otherMonth : Int}
    (hmonth : l.IsMonth id year month) (hother : l.IsMonth id otherYear otherMonth) :
    otherYear = year ∧ otherMonth = month := by
  obtain ⟨row, hrow, rfl, rfl, rfl⟩ := hmonth
  obtain ⟨other, hmem, hid, rfl, rfl⟩ := hother
  obtain rfl := h.months.eq_of_number hmem hrow hid
  exact ⟨rfl, rfl⟩

theorem Integrity.isDay_unique (h : Integrity l) {date other : Date} (hdate : l.IsDay id date)
    (hother : l.IsDay id other) : other = date := by
  obtain ⟨day, hday, rfl, hnumber, hmonth⟩ := hdate
  obtain ⟨found, hfound, hid, hsame, hdated⟩ := hother
  obtain rfl := h.days.eq_of_number hfound hday hid
  obtain ⟨hyear, hmonth⟩ := h.isMonth_unique hmonth hdated
  exact Date.eq_of_fields (by omega) (by omega) (by omega)

/-! ## Runs -/

theorem hasRow_after {α : Type} {request : Request α}
    (hrow : (l.after request).HasRow id what) :
    l.HasRow id what ∨ l.counters.last what < id ∧ Operation.Gives l id what ⟨request⟩ := by
  cases hreply : l.handle request with
  | ok reply =>
      rw [after_of_handle hreply] at hrow
      exact HasRow.before hreply hrow
  | error why =>
      rw [after_of_error hreply] at hrow
      exact .inl hrow

theorem last_le_run (l : Ledger) (operations : List Operation) (what : Entity) :
    l.counters.last what ≤ (l.run operations).counters.last what :=
  run_invariant (fun final => l.counters.last what ≤ final.counters.last what)
    (fun _ _ _ _ hle hreply => Int.le_trans hle (last_le_handle hreply what)) (Int.le_refl _)
    operations

/-- A number that was given out and has no row does not get one again. -/
theorem not_hasRow_run (hgiven : id ≤ l.counters.last what) (hgone : ¬ l.HasRow id what)
    (operations : List Operation) : ¬ (l.run operations).HasRow id what := by
  refine (run_invariant
    (fun final => id ≤ final.counters.last what ∧ ¬ final.HasRow id what) ?_
    ⟨hgiven, hgone⟩ operations).2
  rintro final _ request reply ⟨hle, hnot⟩ hreply
  refine ⟨Int.le_trans hle (last_le_handle hreply what), fun hrow => ?_⟩
  rcases HasRow.before hreply hrow with hold | ⟨hlt, _⟩
  · exact hnot hold
  · omega

/-- A row that is new after an operation has a number after the last one, which the operation
answers. -/
theorem gives_run {operations : List Operation} {count : Nat}
    (hfree : ¬ (l.run (operations.take count)).HasRow id what)
    (hrow : (l.run (operations.take (count + 1))).HasRow id what) :
    (l.run (operations.take count)).counters.last what < id ∧
      ∃ operation, operations[count]? = some operation ∧
        operation.Gives (l.run (operations.take count)) id what := by
  cases hoperation : operations[count]? with
  | none =>
      -- The run has ended before.
      rw [List.take_add_one, hoperation, Option.toList_none, List.append_nil] at hrow
      exact absurd hrow hfree
  | some operation =>
      rw [List.take_add_one, hoperation, Option.toList_some, run_concat] at hrow
      obtain ⟨hlt, hgives⟩ := (hasRow_after hrow).resolve_left hfree
      exact ⟨hlt, operation, rfl, hgives⟩

/-- A number that has a row at the end of a run, and before it, has it all the time. -/
theorem Integrity.hasRow_between (h : Integrity l) {operations later : List Operation}
    (hrow : l.HasRow id what) (hlater : ((l.run operations).run later).HasRow id what) :
    (l.run operations).HasRow id what := by
  by_contra hgone
  exact not_hasRow_run (Int.le_trans (h.le_last hrow) (last_le_run l operations what)) hgone later
    hlater

theorem Integrity.isMonth_run_iff (h : Integrity l) {year month otherYear otherMonth : Int}
    (hmonth : l.IsMonth id year month) (operations : List Operation) :
    (l.run operations).IsMonth id otherYear otherMonth ↔
      otherYear = year ∧ otherMonth = month := by
  have hstill := hmonth.of_keepsDates (h.keepsDates_run operations)
  refine ⟨(h.run operations).isMonth_unique hstill, ?_⟩
  rintro ⟨rfl, rfl⟩
  exact hstill

theorem Integrity.isDay_run_iff (h : Integrity l) {date other : Date} (hdate : l.IsDay id date)
    (operations : List Operation) : (l.run operations).IsDay id other ↔ other = date := by
  have hstill := hdate.of_keepsDates (h.keepsDates_run operations)
  refine ⟨(h.run operations).isDay_unique hstill, ?_⟩
  rintro rfl
  exact hstill

/-- Along every run of a new ledger, each row that an operation adds gets a number greater than
those of all rows of its kind before, and this number is the answer. The numbers of a kind are
distinct, and one that has a row at two times has it all the time between them. What month or day a
number stands for never changes. -/
theorem numbers_run (currency : Currency) (operations : List Operation) :
    let state (count : Nat) := (Ledger.empty currency).run (operations.take count)
    (∀ count what id, ¬ (state count).HasRow id what → (state (count + 1)).HasRow id what →
      (∀ earlier ≤ count, ∀ old, (state earlier).HasRow old what → old < id) ∧
        ∃ operation, operations[count]? = some operation ∧
          operation.Gives (state count) id what) ∧
    (∀ count what, ((state count).numbersOf what).Nodup) ∧
    (∀ first second third what id, first ≤ second → second ≤ third →
      (state first).HasRow id what → (state third).HasRow id what →
        (state second).HasRow id what) ∧
    ∀ earlier later id, earlier ≤ later →
      (∀ year month, (state earlier).IsMonth id year month → ∀ otherYear otherMonth,
        (state later).IsMonth id otherYear otherMonth ↔
          otherYear = year ∧ otherMonth = month) ∧
      ∀ date, (state earlier).IsDay id date → ∀ other,
        (state later).IsDay id other ↔ other = date := by
  intro state
  have h (count : Nat) : Integrity (state count) := (Integrity.empty currency).run _
  have hsplit {earlier later : Nat} (hle : earlier ≤ later) :
      ∃ rest, state later = (state earlier).run rest := ⟨_, run_take_of_le _ operations hle⟩
  refine ⟨?_, fun count what => ((h count).ascending what).imp Int.ne_of_lt, ?_, ?_⟩
  · intro count what id hfree hrow
    obtain ⟨hlt, hgives⟩ := gives_run hfree hrow
    refine ⟨fun earlier hle old hold => ?_, hgives⟩
    obtain ⟨rest, hrest⟩ := hsplit hle
    calc
      old ≤ (state earlier).counters.last what := (h earlier).le_last hold
      _ ≤ (state count).counters.last what := hrest ▸ last_le_run _ rest what
      _ < id := hlt
  · intro first second third what id hfirst hsecond hrow hlater
    obtain ⟨between, hbetween⟩ := hsplit hfirst
    obtain ⟨rest, hrest⟩ := hsplit hsecond
    rw [hrest, hbetween] at hlater
    rw [hbetween]
    exact (h first).hasRow_between hrow hlater
  · intro earlier later id hle
    obtain ⟨rest, hrest⟩ := hsplit hle
    rw [hrest]
    exact ⟨fun year month hmonth _ _ => (h earlier).isMonth_run_iff hmonth rest,
      fun date hdate _ => (h earlier).isDay_run_iff hdate rest⟩

/-- Of two incomes the second is removed, and an addition fails, before there is a third one. -/
def removedDeposit : List Operation :=
  [⟨.openMonth 2024 2⟩, ⟨.addIncome ⟨1, "Pay", ⟨100000, 2⟩, ""⟩⟩,
    ⟨.addIncome ⟨1, "Gift", ⟨5000, 2⟩, ""⟩⟩, ⟨.removeIncome 2⟩,
    ⟨.addIncome ⟨1, "Change", ⟨1, 3⟩, ""⟩⟩, ⟨.addIncome ⟨1, "Prize", ⟨700, 2⟩, ""⟩⟩]

theorem numbers_removedDeposit :
    let state (count : Nat) := (Ledger.empty .gbp).run (removedDeposit.take count)
    (state 3).numbersOf .income = [1, 2] ∧ (state 5).numbersOf .income = [1] ∧
      (state 6).numbersOf .income = [1, 3] ∧
      (∀ earlier ≤ 5, ∀ old, (state earlier).HasRow old .income → old < 3) ∧
      (∃ operation, removedDeposit[5]? = some operation ∧
        operation.Gives (state 5) 3 .income) ∧
      (state 4).HasRow 1 .income ∧
      (∀ year month, (state 6).IsMonth 1 year month ↔ year = 2024 ∧ month = 2) ∧
      ∀ date, (state 6).IsDay 29 date ↔ date = ⟨2024, 2, 29, by decide⟩ := by
  intro state
  obtain ⟨hnew, _, hkept, hdates⟩ := numbers_run .gbp removedDeposit
  obtain ⟨hgreater, hgives⟩ := hnew 5 .income 3 (by decide +kernel) (by decide +kernel)
  have hmonth : (state 1).IsMonth 1 2024 2 :=
    ⟨⟨1, 2024, 2, 0, 0, 0, 0⟩, by decide +kernel, rfl, rfl, rfl⟩
  have hday : (state 1).IsDay 29 ⟨2024, 2, 29, by decide⟩ :=
    ⟨⟨29, 1, 29, 0⟩, by decide +kernel, rfl, rfl, hmonth⟩
  exact ⟨by decide +kernel, by decide +kernel, by decide +kernel, hgreater, hgives,
    hkept 3 4 6 .income 1 (by decide) (by decide) (by decide +kernel) (by decide +kernel),
    (hdates 1 6 1 (by decide)).1 2024 2 hmonth, (hdates 1 6 29 (by decide)).2 _ hday⟩

end Allowance.Ledger
