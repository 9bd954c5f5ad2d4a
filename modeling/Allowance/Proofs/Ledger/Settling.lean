import Allowance.Proofs.Ledger.Figures
import Allowance.Proofs.Ledger.Revision

/-!
# Writing the figures of a month

`recomputed_iff` says when the recomputation of a month succeeds and what it then does: it writes
the computed figures. Reading the figures back gives what was written, the figures of other months
stay as they are, and writing the figures that are there already changes nothing.
-/

namespace Allowance.Ledger

open Outcome

/-! ## Success -/

/-- The derived values of a month are the money of figures. -/
structure Shows (l : Ledger) (month : Month) (f : Figures) : Prop where
  dailyBudget : month.dailyBudget = l.money f.dailyBudget
  totalIncome : month.totalIncome = l.money f.totalIncome
  totalSpend : month.totalSpend = l.money f.totalSpend
  result : month.result = l.money f.result
  saldos : month.days.map (fun day => (day.id, day.saldo)) =
    f.saldos.map fun saldo => (saldo.1, l.money saldo.2)

theorem balances_eq_ok {l : Ledger} {days : List Day} {saldos result : List (Int × Int)}
    (hdays : days.map (fun day => (day.id, day.saldo)) =
      saldos.map fun saldo => (saldo.1, l.money saldo.2)) :
    l.balances days = .ok result ↔ (∀ saldo ∈ saldos, IsStorable saldo.2) ∧ result = saldos := by
  let visit (entry : Int × Money) : Except Failure (Int × Int) := do
    return (entry.1, ← l.units entry.2)
  have hvisit : l.balances days = saldos.mapM fun saldo => visit (saldo.1, l.money saldo.2) := by
    change days.mapM (visit ∘ fun day => (day.id, day.saldo)) = _
    rw [← List.mapM_map, hdays, List.mapM_map]
    rfl
  rw [hvisit]
  apply mapM_check_eq_ok
  intro saldo found
  simp only [visit, bind_eq_ok, pure_eq_ok, units_money]
  constructor
  · rintro ⟨amount, ⟨hstorable, rfl⟩, rfl⟩
    exact ⟨hstorable, rfl⟩
  · rintro ⟨hstorable, rfl⟩
    exact ⟨found.2, ⟨hstorable, rfl⟩, rfl⟩

theorem saveMonth_eq_ok {l final : Ledger} {month : Month} {f : Figures} (h : Shows l month f) :
    l.saveMonth month = .ok final ↔ f.AreStorable ∧ final = l.withFigures month.id f := by
  simp only [saveMonth, bind_eq_ok, pure_eq_ok, h.dailyBudget, h.totalIncome, h.totalSpend,
    h.result, units_money, balances_eq_ok h.saldos, Figures.AreStorable]
  constructor
  · rintro ⟨_, ⟨hbudget, rfl⟩, _, ⟨hincome, rfl⟩, _, ⟨hspend, rfl⟩, _, ⟨hresult, rfl⟩,
      _, ⟨hsaldos, rfl⟩, rfl⟩
    exact ⟨⟨hbudget, hincome, hspend, hresult, hsaldos⟩, rfl⟩
  · rintro ⟨⟨hbudget, hincome, hspend, hresult, hsaldos⟩, rfl⟩
    exact ⟨_, ⟨hbudget, rfl⟩, _, ⟨hincome, rfl⟩, _, ⟨hspend, rfl⟩, _, ⟨hresult, rfl⟩,
      _, ⟨hsaldos, rfl⟩, rfl⟩

/-- A recomputed month shows the computed figures. -/
theorem recompute_shows {l : Ledger} {row : MonthRow}
    (hlength : Calendar.daysInMonth row.year row.month = .ok row.length) :
    ∃ month, (l.monthOf row).recompute none l.precision = .ok month ∧ month.id = row.id ∧
      Shows l month (l.computed row) :=
  ⟨_, recompute_monthOf hlength, rfl, rfl, rfl, rfl, rfl,
    l.cascadeFrom_saldos (l.computed row).dailyBudget 0 (l.daysOf row.id)⟩

theorem loadMonth_of_find? {l : Ledger} {id : Int} {row : MonthRow}
    (hrow : Table.find? l.months id = some row) : l.loadMonth id = .ok (l.monthOf row) :=
  map_eq_ok.mpr ⟨row, require_eq_ok.mpr hrow, rfl⟩

theorem handle_month {l : Ledger} {id : Int} {row : MonthRow}
    (hrow : Table.find? l.months id = some row) :
    l.handle (.month id) = .ok (l.answer (l.monthOf row)) :=
  handle_eq_answer rfl (loadMonth_of_find? hrow)

/-- A month is recomputed exactly when its figures can be stored, and they are what is written. -/
theorem recomputed_iff {l final : Ledger} {row : MonthRow}
    (hrow : Table.find? l.months row.id = some row)
    (hlength : Calendar.daysInMonth row.year row.month = .ok row.length) :
    Recomputed l (some row.id) final ↔
      (l.computed row).AreStorable ∧ final = l.withFigures row.id (l.computed row) := by
  obtain ⟨month, hrecompute, hid, hshows⟩ := recompute_shows hlength
  rw [← hid, ← saveMonth_eq_ok hshows, hid]
  simp only [Recomputed, settle, bind_eq_ok, pure_eq_ok, loadMonth_of_find? hrow]
  constructor
  · rintro ⟨_, _, ⟨⟩, other, hother, saved, hsaved, hend⟩
    rw [hrecompute] at hother
    cases hother
    cases hend
    exact hsaved
  · intro hsaved
    exact ⟨month, _, rfl, month, hrecompute, final, hsaved, rfl⟩

/-! ## Reading back -/

@[simp] theorem withBalance_id (saldos : List (Int × Int)) (day : DayRow) :
    (withBalance saldos day).id = day.id := by
  unfold withBalance
  split <;> rfl

@[simp] theorem withBalance_monthId (saldos : List (Int × Int)) (day : DayRow) :
    (withBalance saldos day).monthId = day.monthId := by
  unfold withBalance
  split <;> rfl

@[simp] theorem withBalance_day (saldos : List (Int × Int)) (day : DayRow) :
    (withBalance saldos day).day = day.day := by
  unfold withBalance
  split <;> rfl

theorem withBalance_of_not_mem {saldos : List (Int × Int)} {day : DayRow}
    (hday : day.id ∉ saldos.map Prod.fst) : withBalance saldos day = day := by
  have hnone : saldos.lookup day.id = none := by
    rw [List.lookup_eq_none_iff]
    intro saldo hsaldo
    rw [bne_iff_ne]
    intro heq
    exact hday (heq ▸ List.mem_map_of_mem hsaldo)
  simp [withBalance, hnone]

/-- Days of distinct numbers take on the balances that a list has for them. -/
theorem map_withBalance {saldos : List (Int × Int)} {days : List DayRow}
    (hkeys : saldos.map Prod.fst = days.map (·.id)) (hnodup : (days.map (·.id)).Nodup) :
    days.map (fun day => (day.id, (withBalance saldos day).saldo)) = saldos := by
  -- The lists move on together, and by distinctness no later day looks up the head.
  induction days generalizing saldos with
  | nil => simpa using hkeys.symm
  | cons day rest ih =>
      cases saldos with
      | nil => simp at hkeys
      | cons head others =>
          obtain ⟨id, saldo⟩ := head
          simp only [List.map_cons, List.cons.injEq] at hkeys
          obtain ⟨rfl, hothers⟩ := hkeys
          simp only [List.map_cons, List.nodup_cons] at hnodup
          have hrest : rest.map (fun other => (other.id, (withBalance ((day.id, saldo) :: others)
              other).saldo)) = others := by
            refine Eq.trans ?_ (ih hothers hnodup.2)
            apply List.map_congr_left
            intro other hother
            have hne : (other.id == day.id) = false := by
              simp only [beq_eq_false_iff_ne, ne_eq]
              intro heq
              exact hnodup.1 (heq ▸ List.mem_map_of_mem hother)
            simp only [withBalance, List.lookup_cons, hne]
          rw [List.map_cons, hrest]
          simp [withBalance]

theorem withBalance_eq_self {saldos : List (Int × Int)} {day : DayRow}
    (hsaldo : (withBalance saldos day).saldo = day.saldo) : withBalance saldos day = day := by
  unfold withBalance at hsaldo ⊢
  split
  next saldo hlookup =>
    rw [hlookup] at hsaldo
    dsimp only at hsaldo
    rw [hsaldo]
  next => rfl

theorem withBalance_of_lookup {saldos : List (Int × Int)} {day : DayRow} {saldo : Int}
    (hlookup : saldos.lookup day.id = some saldo) :
    withBalance saldos day = { day with saldo } := by
  rw [withBalance, hlookup]

/-- Of two balances that are written for the same days only the second one stays. -/
theorem withBalance_withBalance {first second : List (Int × Int)}
    (hkeys : first.map Prod.fst = second.map Prod.fst) (day : DayRow) :
    withBalance second (withBalance first day) = withBalance second day := by
  cases hlookup : second.lookup day.id with
  | some saldo =>
      have hagain : second.lookup (withBalance first day).id = some saldo := by
        rw [withBalance_id, hlookup]
      rw [withBalance_of_lookup hlookup, withBalance_of_lookup hagain]
      unfold withBalance
      split <;> rfl
  | none =>
      have hnot : day.id ∉ second.map Prod.fst := by
        intro hmem
        obtain ⟨entry, hentry, hid⟩ := List.mem_map.mp hmem
        have hother := List.lookup_eq_none_iff.mp hlookup entry hentry
        simp [hid] at hother
      have hfirst : withBalance first day = day := withBalance_of_not_mem (hkeys ▸ hnot)
      rw [hfirst]

variable {l : Ledger} {id : Int} {f : Figures} {row : MonthRow}

/-- Of two sets of figures that are written for a month only the second one stays. -/
theorem withFigures_withFigures {g : Figures}
    (hkeys : f.saldos.map Prod.fst = g.saldos.map Prod.fst) :
    (l.withFigures id f).withFigures id g = l.withFigures id g := by
  have hmonths : Table.modify (Table.modify l.months id (·.withFigures f)) id (·.withFigures g) =
      Table.modify l.months id (·.withFigures g) :=
    Table.modify_modify fun _ => rfl
  have hdays : (l.days.map (withBalance f.saldos)).map (withBalance g.saldos) =
      l.days.map (withBalance g.saldos) := by
    rw [List.map_map]
    exact List.map_congr_left fun day _ => withBalance_withBalance hkeys day
  simp only [withFigures, hmonths, hdays]

theorem daysOf_withFigures (monthId : Int) :
    (l.withFigures id f).daysOf monthId = (l.daysOf monthId).map (withBalance f.saldos) := by
  simp only [daysOf, withFigures, List.filter_map]
  congr 2
  funext day
  simp

/-- Writing figures changes nothing that figures are computed from. -/
theorem computed_withFigures : (l.withFigures id f).computed row = l.computed row := by
  apply computed_congr
  · rfl
  · rfl
  · simp only [spentByDay, daysOf_withFigures, List.map_map]
    apply List.map_congr_left
    intro day _
    simp only [Function.comp_apply, withBalance_id]
    rfl

theorem stored_withFigures (hkeys : f.saldos.map Prod.fst = (l.daysOf row.id).map (·.id))
    (hnodup : ((l.daysOf row.id).map (·.id)).Nodup) :
    (l.withFigures row.id f).stored (row.withFigures f) = f := by
  have hsaldos := map_withBalance hkeys hnodup
  change Figures.mk _ _ _ _ (((l.withFigures row.id f).daysOf row.id).map _) = f
  rw [daysOf_withFigures, List.map_map]
  simp only [Function.comp_def, withBalance_id, hsaldos]
  rfl

/-- The figures of a month whose days are not among those written stay as they are. -/
theorem stored_withFigures_of_disjoint
    (hdisjoint : ∀ day ∈ l.daysOf row.id, day.id ∉ f.saldos.map Prod.fst) :
    (l.withFigures id f).stored row = l.stored row := by
  have hdays : (l.daysOf row.id).map (withBalance f.saldos) = l.daysOf row.id := by
    conv_rhs => rw [← List.map_id (l.daysOf row.id)]
    apply List.map_congr_left
    intro day hday
    exact withBalance_of_not_mem (hdisjoint day hday)
  simp only [stored, daysOf_withFigures, hdays]

/-- Writing the figures that are stored already leaves a ledger as it is. -/
theorem withFigures_stored (hmonths : ∀ other ∈ l.months, other.id = row.id → other = row)
    (hnodup : (l.days.map (·.id)).Nodup) : l.withFigures row.id (l.stored row) = l := by
  have hkept : Table.modify l.months row.id (·.withFigures (l.stored row)) = l.months := by
    apply Table.modify_eq_self
    intro other hother hid
    rw [hmonths other hother hid]
    rfl
  have hsaldos : (l.daysOf row.id).map
      (fun day => (day.id, (withBalance (l.stored row).saldos day).saldo)) =
        (l.daysOf row.id).map fun day => (day.id, day.saldo) := by
    apply map_withBalance
    · simp [stored]
    · exact hnodup.sublist (List.filter_sublist.map _)
  have hdays : l.days.map (withBalance (l.stored row).saldos) = l.days := by
    conv_rhs => rw [← List.map_id l.days]
    apply List.map_congr_left
    intro day hday
    by_cases hmonth : day.monthId = row.id
    · have hpair := List.map_inj_left.mp hsaldos day (mem_daysOf.mpr ⟨hday, hmonth⟩)
      exact withBalance_eq_self (congrArg Prod.snd hpair)
    · apply withBalance_of_not_mem
      simp only [stored, List.map_map, List.mem_map, Function.comp_apply, not_exists, not_and]
      intro other hother hid
      have hsame := List.inj_on_of_nodup_map hnodup (mem_daysOf.mp hother).1 hday hid
      exact hmonth (hsame ▸ (mem_daysOf.mp hother).2)
  simp only [withFigures, hkept, hdays]

end Allowance.Ledger
