import Allowance.Proofs.Month.Recompute

/-!
# Months of one precision

As long as everything that is entered for a month has the precision of its currency, so has every
derived value, and the daily budget is cut off at a minor unit. No sum falls back on another
precision, not even one of no amounts.
-/

namespace Allowance

open Money Number

/-- All derived values, those of the days last. -/
def Derived.amounts (d : Derived) : List Money :=
  d.dailyBudget :: d.totalIncome :: d.totalSpend :: d.result :: d.saldos

namespace Month

/-- Everything that is entered for a month has one precision. -/
structure IsUniform (m : Month) (precision : ℕ) : Prop where
  incomes : ∀ income ∈ m.incomes, income.amount.precision = precision
  payments : ∀ payment ∈ m.payments, payment.cost.precision = precision
  spends : ∀ day ∈ m.days, ∀ spend ∈ day.spends, spend.cost.precision = precision

variable {m : Month} {precision : ℕ}

/-- A sum of entries of one precision has it, whether there are any or not. -/
theorem precision_total_map {α : Type} {entries : List α} {amount : α → Money}
    (h : ∀ entry ∈ entries, (amount entry).precision = precision) :
    (total precision (entries.map amount)).precision = precision := by
  rw [precision_total, sumPrecision_eq]
  intro m hm
  obtain ⟨entry, hentry, rfl⟩ := List.mem_map.mp hm
  exact h entry hentry

theorem precision_spent {day : Day}
    (h : ∀ spend ∈ day.spends, spend.cost.precision = precision) :
    (day.spent precision).precision = precision :=
  precision_total_map h

/-- The running balance keeps the precision of the daily budget. -/
theorem precision_cascadeFrom {budget balance : Money} {days : List Day}
    (hbudget : budget.precision = precision) (hbalance : balance.precision = precision)
    (h : ∀ day ∈ days, ∀ spend ∈ day.spends, spend.cost.precision = precision) :
    ∀ day ∈ cascadeFrom budget balance days, day.saldo.precision = precision := by
  induction days generalizing balance with
  | nil => simp [cascadeFrom]
  | cons day rest ih =>
      obtain ⟨hday, hrest⟩ := List.forall_mem_cons.mp h
      have hsaldo :
          (balance + budget - day.spent budget.precision).precision = precision := by
        rw [precision_sub, precision_add, hbudget, hbalance, precision_spent hday, Nat.max_self,
          Nat.max_self]
      exact List.forall_mem_cons.mpr ⟨hsaldo, ih hsaldo hrest⟩

theorem IsUniform.precision_derivation (h : m.IsUniform precision) (count : ℤ) :
    ∀ amount ∈ (m.derivation precision count).amounts, amount.precision = precision := by
  have hincome : (total precision m.incomeAmounts).precision = precision :=
    precision_total_map h.incomes
  have hpayments : (-total precision m.paymentCosts).precision = precision :=
    precision_total_map h.payments
  have hspends : (-total precision (m.days.map (·.spent precision))).precision = precision :=
    precision_total_map fun day hday => precision_spent (h.spends day hday)
  have hbudget : (m.derivation precision count).dailyBudget.precision = precision := by
    rw [derivation, precision_add, hincome, hpayments, Nat.max_self]
  have htotal : (m.derivation precision count).totalSpend.precision = precision := by
    rw [derivation, precision_add, hpayments, hspends, Nat.max_self]
  have hresult : (m.derivation precision count).result.precision = precision := by
    rw [derivation, precision_add, hincome, precision_add, hpayments, hspends, Nat.max_self,
      Nat.max_self]
  simp only [Derived.amounts, List.forall_mem_cons]
  refine ⟨hbudget, hincome, htotal, hresult, ?_⟩
  intro saldo hsaldo
  obtain ⟨day, hday, rfl⟩ := List.mem_map.mp hsaldo
  refine precision_cascadeFrom hbudget ?_ h.spends day hday
  exact hbudget

/-- Recomputing a month of one precision gives every derived value this precision, and the daily
budget is the surplus of each day without what is less than a minor unit. -/
theorem IsUniform.exists_recomputed (h : m.IsUniform precision) {days : Option ℤ} {count : ℤ}
    (hcount : m.divisor days = .ok count) (hpositive : 1 ≤ count) :
    ∃ settled, m.recompute days precision = .ok settled ∧
      (∀ amount ∈ settled.derived.amounts, amount.precision = precision) ∧
      settled.dailyBudget.amount = truncate (m.surplusValue / count * 10 ^ precision) := by
  have hderives := m.derives_derivation precision hpositive
  have hderived := derived_withDerived hderives.length_saldos
  have hprecision := h.precision_derivation count
  refine ⟨_, recompute_eq hcount hpositive, ?_, ?_⟩
  · rw [hderived]
    exact hprecision
  · have hamount := hderives.dailyBudget
    rw [hprecision _ List.mem_cons_self] at hamount
    exact hamount

end Month

end Allowance
