import Allowance.Proofs.Ledger.Integrity

/-!
# Settled ledgers

A month is settled if its stored figures are the computed ones. A revision unsettles at most the
month that it then has recomputed, so that all months of a ledger are settled in every state. For
this reason an edit that gives no amount can do without a recomputation.
-/

namespace Allowance.Ledger

/-- The figures of a month are stored as its entered rows give them, and fit the storage. -/
structure SettledAt (l : Ledger) (row : MonthRow) : Prop where
  stored_eq : l.stored row = l.computed row
  storable : (l.stored row).AreStorable

def Settled (l : Ledger) : Prop :=
  ∀ row ∈ l.months, l.SettledAt row

theorem SettledAt.congr {l other : Ledger} {row : MonthRow} (h : l.SettledAt row)
    (hstored : other.stored row = l.stored row) (hcomputed : other.computed row = l.computed row) :
    other.SettledAt row :=
  ⟨hstored.trans (h.stored_eq.trans hcomputed.symm), hstored ▸ h.storable⟩

/-! ## A new month -/

theorem balancesFrom_zero {spent : List (Int × Int)} (hspent : ∀ entry ∈ spent, entry.2 = 0) :
    balancesFrom 0 0 spent = spent := by
  induction spent with
  | nil => rfl
  | cons head rest ih =>
      obtain ⟨id, amount⟩ := head
      obtain ⟨rfl, hrest⟩ := List.forall_mem_cons.mp hspent
      change (id, 0) :: balancesFrom 0 0 rest = _
      rw [ih hrest]

theorem isStorable_zero : IsStorable 0 := by
  decide

/-- A month without entries is settled by figures of zero. -/
theorem settledAt_of_no_entries {l : Ledger} {row : MonthRow}
    (hincome : l.incomeUnits row.id = 0) (hpayment : l.paymentUnits row.id = 0)
    (hspent : ∀ day ∈ l.daysOf row.id, l.spentUnits day.id = 0)
    (hsaldo : ∀ day ∈ l.daysOf row.id, day.saldo = 0)
    (hrow : row.withFigures ⟨0, 0, 0, 0, []⟩ = row) : l.SettledAt row := by
  have hspentByDay : l.spentByDay row.id = (l.daysOf row.id).map fun day => (day.id, 0) :=
    List.map_congr_left fun day hday => by rw [hspent day hday]
  have hsaldos : (l.stored row).saldos = (l.daysOf row.id).map fun day => (day.id, 0) :=
    List.map_congr_left fun day hday => by rw [hsaldo day hday]
  have hzero : ((l.spentByDay row.id).map Prod.snd).sum = 0 := by
    rw [hspentByDay, List.map_map]
    exact List.sum_eq_zero fun amount hamount => by
      obtain ⟨day, _, rfl⟩ := List.mem_map.mp hamount
      rfl
  have hstored : l.stored row = ⟨0, 0, 0, 0, (l.daysOf row.id).map fun day => (day.id, 0)⟩ := by
    rw [← hsaldos, ← hrow]
    rfl
  refine ⟨?_, ?_⟩
  · rw [hstored]
    simp only [computed, surplus, hincome, hpayment, hzero, Int.sub_self, Int.zero_tdiv,
      Int.neg_zero]
    rw [balancesFrom_zero, hspentByDay]
    rw [hspentByDay]
    intro entry hentry
    obtain ⟨day, _, rfl⟩ := List.mem_map.mp hentry
    rfl
  · rw [hstored]
    refine ⟨isStorable_zero, isStorable_zero, isStorable_zero, isStorable_zero, ?_⟩
    intro saldo hsaldo
    obtain ⟨day, _, rfl⟩ := List.mem_map.mp hsaldo
    exact isStorable_zero

/-! ## Revisions -/

/-- An edit keeps the amounts of every month that it has no recomputation for. -/
theorem getD_of_edited {l : Ledger} {given : Option Money} {amount : Option Int} {owner id : Int}
    (hamount : l.units? given = .ok amount) (htarget : (given.map fun _ => owner) ≠ some id)
    (howner : owner = id) (old : Int) : amount.getD old = old := by
  cases given with
  | some m =>
      subst howner
      exact absurd rfl htarget
  | none =>
      cases hamount
      rfl

variable {l middle : Ledger} {target : Option Int}

/-- Spends of the days of one month are none of the spends of another. -/
theorem ne_of_mem_daysOf (h : Integrity l) {dayId monthId : Int} {day other : DayRow}
    (hday : Table.find? l.days dayId = some day) (hmonth : day.monthId ≠ monthId)
    (hother : other ∈ l.daysOf monthId) : dayId ≠ other.id := by
  rintro rfl
  obtain ⟨hmem, hid⟩ := mem_daysOf.mp hother
  obtain rfl := h.days.eq_of_find? hday hmem rfl
  exact hmonth hid

theorem spentByDay_congr {monthId : Int}
    (hdays : middle.daysOf monthId = l.daysOf monthId)
    (hspent : ∀ day ∈ l.daysOf monthId, middle.spentUnits day.id = l.spentUnits day.id) :
    middle.spentByDay monthId = l.spentByDay monthId := by
  rw [spentByDay, hdays]
  apply List.map_congr_left
  intro day hday
  rw [hspent day hday]

theorem settledAt_insertMonth (h : Integrity l) (hsettled : l.Settled) (year month : Int)
    (days : Nat) {row : MonthRow} (hrow : row ∈ (l.insertMonth year month days).months) :
    (l.insertMonth year month days).SettledAt row := by
  rcases List.mem_append.mp hrow with hold | hnew
  · have hdays := h.daysOf_insertMonth year month days (Table.number_mem hold)
    refine (hsettled row hold).congr ?_ (computed_congr rfl rfl ?_)
    · simp only [stored]
      rw [← number_monthRow, hdays]
    · exact spentByDay_congr hdays fun _ _ => rfl
  · obtain rfl := List.mem_singleton.mp hnew
    -- The number of the new month was not given out before, so that no entry refers to it.
    have hfresh {owner : Int} (howner : owner ∈ Table.numbers l.months) :
        owner ≠ l.counters.month + 1 := by
      rintro rfl
      exact h.months.next_free howner
    apply settledAt_of_no_entries
    · exact Table.sumFor_eq_zero fun income hincome => hfresh (h.incomeMonth income hincome)
    · exact Table.sumFor_eq_zero fun payment hpayment => hfresh (h.paymentMonth payment hpayment)
    · intro day hday
      rw [h.daysOf_insertMonth_new] at hday
      obtain ⟨i, _, rfl⟩ := List.mem_map.mp hday
      apply Table.sumFor_eq_zero
      intro spend hspend
      have := h.days.given _ (h.spendDay spend hspend)
      dsimp only
      omega
    · intro day hday
      rw [h.daysOf_insertMonth_new] at hday
      obtain ⟨i, _, rfl⟩ := List.mem_map.mp hday
      rfl
    · rfl

/-- After a revision of a settled ledger every month is settled but the one to be recomputed. -/
theorem Settled.revision (hsettled : l.Settled) (h : Integrity l)
    (hrevision : Revision l middle target) {row : MonthRow} (hrow : row ∈ middle.months)
    (htarget : target ≠ some row.id) : middle.SettledAt row := by
  cases hrevision with
  | unchanged => exact hsettled row hrow
  | monthOpened year month days hmonth hfree hdays =>
      exact settledAt_insertMonth h hsettled year month days hrow
  | incomeAdded income amount hvalid hmonth hamount =>
      refine (hsettled row hrow).congr rfl (computed_congr ?_ rfl rfl)
      exact Table.sumFor_append_of_ne _ fun hid => htarget (congrArg some hid)
  | incomeEdited edit amount old hvalid hold hamount =>
      refine (hsettled row hrow).congr rfl (computed_congr ?_ rfl rfl)
      exact h.incomes.sumFor_edit hold (fun _ => rfl) fun howner =>
        getD_of_edited hamount htarget howner _
  | incomeRemoved id old hold =>
      refine (hsettled row hrow).congr rfl (computed_congr ?_ rfl rfl)
      exact h.incomes.sumFor_remove hold fun hid => htarget (congrArg some hid)
  | paymentAdded payment cost hvalid hmonth htype hcost =>
      refine (hsettled row hrow).congr rfl (computed_congr rfl ?_ rfl)
      exact Table.sumFor_append_of_ne _ fun hid => htarget (congrArg some hid)
  | paymentEdited edit cost old hvalid hold htype hcost =>
      refine (hsettled row hrow).congr rfl (computed_congr rfl ?_ rfl)
      exact h.payments.sumFor_edit hold (fun _ => rfl) fun howner =>
        getD_of_edited hcost htarget howner _
  | paymentRemoved id old hold =>
      refine (hsettled row hrow).congr rfl (computed_congr rfl ?_ rfl)
      exact h.payments.sumFor_remove hold fun hid => htarget (congrArg some hid)
  | spendAdded spend cost day hvalid hday htype hcost =>
      refine (hsettled row hrow).congr rfl (computed_congr rfl rfl (spentByDay_congr rfl ?_))
      intro other hother
      have hmonth : day.monthId ≠ row.id := fun hid => htarget (congrArg some hid)
      exact Table.sumFor_append_of_ne _ (ne_of_mem_daysOf h hday hmonth hother)
  | spendEdited edit cost old day hvalid hold hday htype hcost =>
      refine (hsettled row hrow).congr rfl (computed_congr rfl rfl (spentByDay_congr rfl ?_))
      intro other hother
      refine h.spends.sumFor_edit hold (fun _ => rfl) fun howner => ?_
      -- A spend of this month was edited without a cost, any other is not among these days.
      by_cases hmonth : day.monthId = row.id
      · exact getD_of_edited hcost htarget hmonth _
      · exact absurd howner (ne_of_mem_daysOf h hday hmonth hother)
  | spendRemoved id old day hold hday =>
      refine (hsettled row hrow).congr rfl (computed_congr rfl rfl (spentByDay_congr rfl ?_))
      intro other hother
      have hmonth : day.monthId ≠ row.id := fun hid => htarget (congrArg some hid)
      exact h.spends.sumFor_remove hold (ne_of_mem_daysOf h hday hmonth hother)
  | typeAdded | typeEdited | typeRemoved => exact (hsettled row hrow).congr rfl rfl

/-! ## Recomputations -/

/-- A recomputation settles its month and leaves the others settled. -/
theorem Integrity.settled_withFigures (h : Integrity l) {row : MonthRow} (hrow : row ∈ l.months)
    (hstorable : (l.computed row).AreStorable)
    (hothers : ∀ other ∈ l.months, other.id ≠ row.id → l.SettledAt other) :
    (l.withFigures row.id (l.computed row)).Settled := by
  intro changed hchanged
  obtain ⟨other, hother, rfl⟩ := Table.mem_modify.mp hchanged
  by_cases hid : other.id = row.id
  · obtain rfl := h.months.eq_of_number hother hrow hid
    have hstored := stored_withFigures (l.computed_keys other) (h.nodup_daysOf other.id)
    simp only [number_monthRow, if_true]
    constructor
    · rw [hstored, computed_withFigures]
      rfl
    · rw [hstored]
      exact hstorable
  · simp only [number_monthRow, hid, if_false]
    apply (hothers other hother hid).congr
    -- A day lies in one month only, so that no balance of another month is written.
    · apply stored_withFigures_of_disjoint
      intro day hday hmem
      rw [computed_keys] at hmem
      obtain ⟨same, hsame, hsameId⟩ := List.mem_map.mp hmem
      obtain ⟨hdayMem, hdayMonth⟩ := mem_daysOf.mp hday
      obtain ⟨hsameMem, hsameMonth⟩ := mem_daysOf.mp hsame
      obtain rfl := h.days.eq_of_number hsameMem hdayMem hsameId
      exact hid (hdayMonth.symm.trans hsameMonth)
    · exact computed_withFigures

theorem Settled.handle (hsettled : l.Settled) (h : Integrity l) {α : Type} {request : Request α}
    {reply : Reply α} (hreply : l.handle request = .ok reply) : reply.ledger.Settled := by
  obtain ⟨middle, target, hrevision, hrecomputed⟩ := handle_eq_ok hreply
  cases target with
  | none =>
      obtain rfl : reply.ledger = middle := hrecomputed
      exact fun row hrow => hsettled.revision h hrevision hrow (by simp)
  | some id =>
      have hmiddle := h.revision hrevision
      obtain ⟨row, hrow, rfl, hstorable, hfinal⟩ := hmiddle.recomputed hrecomputed
      rw [hfinal]
      apply hmiddle.settled_withFigures hrow hstorable
      intro other hother hid
      exact hsettled.revision h hrevision hother fun hsame => hid (Option.some.inj hsame).symm

/-! ## Runs -/

/-- What holds of a ledger between requests. -/
structure Sound (l : Ledger) : Prop where
  integrity : Integrity l
  settled : l.Settled

namespace Sound

theorem empty (currency : Currency) : Sound (Ledger.empty currency) := by
  refine ⟨.empty currency, ?_⟩
  intro row hrow
  cases hrow

theorem handle (h : Sound l) {α : Type} {request : Request α} {reply : Reply α}
    (hreply : l.handle request = .ok reply) : Sound reply.ledger :=
  ⟨h.integrity.handle hreply, h.settled.handle h.integrity hreply⟩

theorem after (h : Sound l) {α : Type} (request : Request α) : Sound (l.after request) :=
  after_invariant Sound h fun _ => h.handle

theorem run (h : Sound l) (operations : List Operation) : Sound (l.run operations) :=
  run_invariant Sound (fun _ _ _ _ hl => hl.handle) h operations

end Sound

end Allowance.Ledger
