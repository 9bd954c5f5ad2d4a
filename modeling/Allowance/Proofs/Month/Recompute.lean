import Mathlib.Data.List.Forall2
import Allowance.Month.Recompute
import Allowance.Proofs.Money.Total
import Allowance.Proofs.Outcome

/-!
# The derived values of a month

A recomputation gives every derived value of a month in closed form: sums of what is entered, the
daily budget cut off at a minor unit of these sums, and for each day the budgets up to it without
the spends up to it. Nothing but the entries counts, and not their order, so that a month that has
been recomputed stays as it is.
-/

namespace Allowance

open Money Number

/-! ## Derived values -/

/-- The derived values of a month, with the balances of its days in their order. -/
structure Derived where
  dailyBudget : Money
  totalIncome : Money
  totalSpend : Money
  result : Money
  saldos : List Money
  deriving Repr, DecidableEq

/-- Days with their balances replaced. -/
def withSaldos (days : List Day) (saldos : List Money) : List Day :=
  days.zipWith (fun day saldo => { day with saldo }) saldos

/-- The costs of the spends of a day. -/
def Day.costs (day : Day) : List Money :=
  day.spends.map (·.cost)

namespace Month

def derived (m : Month) : Derived where
  dailyBudget := m.dailyBudget
  totalIncome := m.totalIncome
  totalSpend := m.totalSpend
  result := m.result
  saldos := m.days.map (·.saldo)

/-- The month with its derived values replaced and everything else kept. -/
def withDerived (m : Month) (d : Derived) : Month :=
  { m with
    dailyBudget := d.dailyBudget
    totalIncome := d.totalIncome
    totalSpend := d.totalSpend
    result := d.result
    days := withSaldos m.days d.saldos }

def incomeAmounts (m : Month) : List Money :=
  m.incomes.map (·.amount)

def paymentCosts (m : Month) : List Money :=
  m.payments.map (·.cost)

/-- What is left of the incomes once the payments are made. -/
def surplusValue (m : Month) : ℚ :=
  valueSum m.incomeAmounts - valueSum m.paymentCosts

/-- What was spent on some of the days. -/
def spentValue (days : List Day) : ℚ :=
  (days.map fun day => valueSum day.costs).sum

/-- The derived values are those that the entries of a month call for if a number of days share its
budget. A sum of no amounts has the given precision. -/
structure Derives (m : Month) (precision : ℕ) (count : ℤ) (d : Derived) : Prop where
  totalIncome : d.totalIncome.value = valueSum m.incomeAmounts
  totalSpend : d.totalSpend.value = -valueSum m.paymentCosts - spentValue m.days
  result : d.result.value = d.totalIncome.value + d.totalSpend.value
  budgetPrecision : d.dailyBudget.precision =
    max (sumPrecision precision m.incomeAmounts) (sumPrecision precision m.paymentCosts)
  dailyBudget : d.dailyBudget.amount =
    truncate (m.surplusValue / count * 10 ^ d.dailyBudget.precision)
  length_saldos : d.saldos.length = m.days.length
  saldo : ∀ (i : ℕ) (saldo : Money), d.saldos[i]? = some saldo →
    saldo.value = (i + 1) * d.dailyBudget.value - spentValue (m.days.take (i + 1))

/-- Two months have the same incomes and payments, and the same spends on each day, in whatever
order. Their derived values are left open. -/
structure SharesEntries (m other : Month) : Prop where
  year : other.year = m.year
  month : other.month = m.month
  incomes : other.incomes.Perm m.incomes
  payments : other.payments.Perm m.payments
  spends : List.Forall₂ (fun day otherDay => otherDay.spends.Perm day.spends) m.days other.days

end Month

/-! ## Replacing balances -/

section Days

variable {days : List Day} {saldos : List Money}

theorem saldo_withSaldos (h : saldos.length = days.length) :
    (withSaldos days saldos).map (·.saldo) = saldos := by
  induction days generalizing saldos with
  | nil => exact (List.length_eq_zero_iff.mp h).symm
  | cons day rest ih =>
      cases saldos with
      | nil => cases h
      | cons saldo others => exact congrArg (saldo :: ·) (ih (Nat.succ.inj h))

theorem withSaldos_withSaldos (days : List Day) (saldos : List Money) :
    withSaldos (withSaldos days saldos) saldos = withSaldos days saldos := by
  induction days generalizing saldos with
  | nil => rfl
  | cons day rest ih =>
      cases saldos with
      | nil => rfl
      | cons saldo others => exact congrArg ({ day with saldo } :: ·) (ih others)

theorem spends_withSaldos (h : saldos.length = days.length) :
    List.Forall₂ (fun day otherDay => otherDay.spends.Perm day.spends) days
      (withSaldos days saldos) := by
  induction days generalizing saldos with
  | nil => exact .nil
  | cons day rest ih =>
      cases saldos with
      | nil => cases h
      | cons saldo others => exact .cons (.refl _) (ih (Nat.succ.inj h))

/-! ## Balances -/

theorem value_spent (day : Day) (precision : Nat) :
    (day.spent precision).value = valueSum day.costs :=
  value_total precision _

theorem spent_congr {day other : Day} (precision : Nat) (h : other.spends.Perm day.spends) :
    other.spent precision = day.spent precision :=
  total_of_perm (h.map (·.cost))

theorem map_spent_congr {others : List Day} (precision : Nat)
    (h : List.Forall₂ (fun day other => other.spends.Perm day.spends) days others) :
    others.map (·.spent precision) = days.map (·.spent precision) := by
  induction h with
  | nil => rfl
  | cons hspends _ ih => rw [List.map_cons, List.map_cons, spent_congr precision hspends, ih]

/-- The balances of days depend on their spends alone, and nothing else of the days is changed. -/
theorem cascadeFrom_eq_withSaldos {others : List Day} (budget balance : Money)
    (h : List.Forall₂ (fun day other => other.spends.Perm day.spends) days others) :
    cascadeFrom budget balance others =
      withSaldos others ((cascadeFrom budget balance days).map (·.saldo)) := by
  -- The balance brought forward is that of the days whose spends are read.
  induction h generalizing balance with
  | nil => rfl
  | cons hspends _ ih =>
      simp only [cascadeFrom, spent_congr budget.precision hspends, List.map_cons]
      exact congrArg (_ :: ·) (ih _)

theorem length_cascadeFrom (budget balance : Money) (days : List Day) :
    (cascadeFrom budget balance days).length = days.length := by
  induction days generalizing balance with
  | nil => rfl
  | cons day rest ih => simp only [cascadeFrom, List.length_cons, ih]

/-- Each day adds one budget to the balance and takes off its spends, so that the first days
together add as many budgets and take off all of their spends. -/
theorem value_cascadeFrom {budget balance saldo : Money} {i : ℕ}
    (h : ((cascadeFrom budget balance days).map (·.saldo))[i]? = some saldo) :
    saldo.value =
      balance.value + (i + 1) * budget.value - Month.spentValue (days.take (i + 1)) := by
  induction days generalizing balance i with
  | nil => simp [cascadeFrom] at h
  | cons day rest ih =>
      have hfirst : (balance + budget - day.spent budget.precision).value =
          balance.value + budget.value - valueSum day.costs := by
        rw [value_sub, value_add, value_spent]
      simp only [cascadeFrom, List.map_cons] at h
      cases i with
      | zero =>
          cases h
          simp only [hfirst, Month.spentValue, List.take_succ_cons, List.take_zero, List.map_cons,
            List.map_nil, List.sum_cons, List.sum_nil, Nat.cast_zero]
          ring
      | succ i =>
          rw [List.getElem?_cons_succ] at h
          rw [ih h, hfirst]
          simp only [Month.spentValue, List.take_succ_cons, List.map_cons, List.sum_cons,
            Nat.cast_succ]
          ring

end Days

namespace Month

/-! ## Recomputing -/

/-- The derived values that a recomputation calculates. -/
def derivation (m : Month) (precision : ℕ) (count : ℤ) : Derived :=
  let totalIncome := total precision m.incomeAmounts
  let paymentsCost := -total precision m.paymentCosts
  let totalSpend := paymentsCost + -total precision (m.days.map (·.spent precision))
  let surplus := totalIncome + paymentsCost
  let dailyBudget : Money := ⟨surplus.amount.tdiv count, surplus.precision⟩
  { dailyBudget, totalIncome, totalSpend
    result := totalIncome + totalSpend
    saldos := (cascade m.days dailyBudget).map (·.saldo) }

variable {m other : Month} {days : Option ℤ} {precision : ℕ} {count : ℤ} {d : Derived}

theorem daysSpent_eq (m : Month) (precision : ℕ) :
    m.daysSpent precision = .ok (m.days.map (·.spent precision)) := by
  rw [daysSpent, Outcome.mapM_eq_ok, List.map_map]
  exact List.map_congr_left fun day _ => totalAt_natCast precision _

theorem spendsCost_eq (m : Month) (precision : ℕ) :
    m.spendsCost precision = .ok (-total precision (m.days.map (·.spent precision))) := by
  simp only [spendsCost, daysSpent_eq, bind, Except.bind, totalAt_natCast, pure, Except.pure]

theorem recompute_eq (hcount : m.divisor days = .ok count) (hpositive : 1 ≤ count) :
    m.recompute days precision = .ok (m.withDerived (m.derivation precision count)) := by
  have hdivide (surplus : Money) :
      surplus.divide count = .ok ⟨surplus.amount.tdiv count, surplus.precision⟩ := by
    rw [divide, if_neg (by omega)]
  have hdays (budget : Money) :
      cascade m.days budget = withSaldos m.days ((cascade m.days budget).map (·.saldo)) :=
    cascadeFrom_eq_withSaldos budget _ (List.forall₂_same.mpr fun _ _ => .refl _)
  simp only [recompute, incomeTotal, paymentsCost, totalAt_natCast, Except.map, hcount,
    spendsCost_eq, dailyAllowance, hdivide, bind, Except.bind, pure, Except.pure]
  rw [hdays]
  rfl

/-- A month whose sums and budgets are calculated has the values that they stand for. -/
theorem derives_derivation (m : Month) (precision : ℕ) {count : ℤ} (hpositive : 1 ≤ count) :
    m.Derives precision count (m.derivation precision count) where
  totalIncome := value_total precision _
  totalSpend := by
    have hspent : valueSum (m.days.map (·.spent precision)) = spentValue m.days := by
      rw [valueSum, spentValue, List.map_map]
      simp only [Function.comp_def, value_spent]
    rw [derivation, value_add, value_neg, value_neg, value_total, value_total, hspent,
      sub_eq_add_neg]
  result := value_add _ _
  budgetPrecision := by
    rw [derivation, precision_add, ← precision_total, ← precision_total]
    rfl
  dailyBudget := by
    have hsurplus : (total precision m.incomeAmounts + -total precision m.paymentCosts).value =
        m.surplusValue := by
      rw [value_add, value_neg, value_total, value_total, ← sub_eq_add_neg, surplusValue]
    rw [derivation, tdiv_eq_truncate _ (by omega), amount_eq_value, hsurplus, div_mul_eq_mul_div]
  length_saldos := by
    rw [derivation, List.length_map, cascade, length_cascadeFrom]
  saldo := by
    intro i saldo hsaldo
    have hvalue := value_cascadeFrom hsaldo
    rw [value_zero, zero_add] at hvalue
    exact hvalue

/-- Nothing but the entries of a month counts, and not their order. -/
theorem SharesEntries.derivation_eq (h : m.SharesEntries other) (precision : ℕ) (count : ℤ) :
    other.derivation precision count = m.derivation precision count := by
  have hincomes : total precision other.incomeAmounts = total precision m.incomeAmounts :=
    total_of_perm (h.incomes.map Income.amount)
  have hpayments : total precision other.paymentCosts = total precision m.paymentCosts :=
    total_of_perm (h.payments.map Payment.cost)
  have hspent : other.days.map (·.spent precision) = m.days.map (·.spent precision) :=
    map_spent_congr precision h.spends
  have hsaldos (budget : Money) :
      (cascade other.days budget).map (·.saldo) = (cascade m.days budget).map (·.saldo) := by
    rw [cascade, cascadeFrom_eq_withSaldos budget _ h.spends, saldo_withSaldos]
    · rfl
    · rw [List.length_map, length_cascadeFrom, h.spends.length_eq]
  simp only [derivation, hincomes, hpayments, hspent, hsaldos]

theorem SharesEntries.divisor_eq (h : m.SharesEntries other) (days : Option ℤ) :
    other.divisor days = m.divisor days := by
  cases days with
  | some n => rfl
  | none => rw [divisor, divisor, h.year, h.month]

theorem SharesEntries.recompute_eq (h : m.SharesEntries other)
    (hcount : m.divisor days = .ok count) (hpositive : 1 ≤ count) :
    other.recompute days precision =
      .ok (other.withDerived (m.derivation precision count)) := by
  rw [Month.recompute_eq ((h.divisor_eq days).trans hcount) hpositive, h.derivation_eq]

theorem sharesEntries_withDerived (h : d.saldos.length = m.days.length) :
    m.SharesEntries (m.withDerived d) :=
  ⟨rfl, rfl, .refl _, .refl _, spends_withSaldos h⟩

theorem derived_withDerived (h : d.saldos.length = m.days.length) :
    (m.withDerived d).derived = d := by
  simp only [derived, withDerived, saldo_withSaldos h]

theorem withDerived_withDerived (m : Month) (d : Derived) :
    (m.withDerived d).withDerived d = m.withDerived d := by
  simp only [withDerived, withSaldos_withSaldos]

/-- A recomputation succeeds, replaces the derived values by those that the entries call for and
changes nothing else. A month with the same entries gets the same values, however its entries are
ordered and whatever its derived values were before, and so the recomputed month stays as it is. -/
theorem recompute_derives (m : Month) (days : Option ℤ) (precision : ℕ) (count : ℤ)
    (hcount : m.divisor days = .ok count) (hpositive : 1 ≤ count) :
    ∃ settled, m.recompute days precision = .ok settled ∧
      m.Derives precision count settled.derived ∧
      settled = m.withDerived settled.derived ∧
      (∀ other, m.SharesEntries other →
        other.recompute days precision = .ok (other.withDerived settled.derived)) ∧
      settled.recompute days precision = .ok settled := by
  have hderives := m.derives_derivation precision hpositive
  have hderived := derived_withDerived hderives.length_saldos
  refine ⟨_, recompute_eq hcount hpositive, ?_, ?_, ?_, ?_⟩
  · rw [hderived]
    exact hderives
  · rw [hderived]
  · intro other hother
    rw [hderived]
    exact hother.recompute_eq hcount hpositive
  · have hshares := sharesEntries_withDerived hderives.length_saldos
    rw [hshares.recompute_eq hcount hpositive, withDerived_withDerived]

/-- A deficit that seven days share, with amounts of four precisions and a day without spends. -/
def mixedTrip : Month where
  id := 1
  year := 2025
  month := 2
  incomes := [⟨1, 1, "Pay", ⟨1000, 2⟩, ""⟩, ⟨2, 1, "Gift", ⟨3, 0⟩, ""⟩]
  payments := [⟨1, 1, "Train", ⟨205, 1⟩, 0, ""⟩]
  days := [
    ⟨1, 1, 1, zero 2, [⟨1, 1, "Tea", ⟨1234, 3⟩, 0, ""⟩, ⟨2, 1, "Bun", ⟨5, 1⟩, 0, ""⟩]⟩,
    ⟨2, 1, 2, zero 2, []⟩,
    ⟨3, 1, 3, zero 2, [⟨3, 3, "Refund", ⟨-2, 0⟩, 0, ""⟩]⟩]
  dailyBudget := zero 2
  totalIncome := zero 2
  totalSpend := zero 2
  result := zero 2

/-- The same month with its entries in reverse and other derived values. -/
def reversedTrip : Month :=
  { mixedTrip with
    incomes := mixedTrip.incomes.reverse
    days := mixedTrip.days.map fun day =>
      { day with spends := day.spends.reverse, saldo := ⟨1, 5⟩ }
    result := ⟨99, 0⟩ }

theorem derives_mixedTrip :
    ∃ settled, mixedTrip.recompute (some 7) (2 : ℕ) = .ok settled ∧
      settled.derived = ⟨⟨-107, 2⟩, ⟨1300, 2⟩, ⟨-20234, 3⟩, ⟨-7234, 3⟩,
        [⟨-2804, 3⟩, ⟨-3874, 3⟩, ⟨-2944, 3⟩]⟩ ∧
      mixedTrip.Derives 2 7 settled.derived ∧
      reversedTrip.recompute (some 7) (2 : ℕ) = .ok (reversedTrip.withDerived settled.derived) ∧
      settled.recompute (some 7) (2 : ℕ) = .ok settled := by
  obtain ⟨settled, hsettled, hderives, _, hothers, hstays⟩ :=
    recompute_derives mixedTrip (some 7) 2 7 rfl (by decide)
  have hvalues : settled = mixedTrip.withDerived ⟨⟨-107, 2⟩, ⟨1300, 2⟩, ⟨-20234, 3⟩, ⟨-7234, 3⟩,
      [⟨-2804, 3⟩, ⟨-3874, 3⟩, ⟨-2944, 3⟩]⟩ :=
    Except.ok.inj (hsettled.symm.trans rfl)
  have hshares : mixedTrip.SharesEntries reversedTrip :=
    ⟨rfl, rfl, List.reverse_perm _, .refl _,
      .cons (List.reverse_perm _) (.cons (.refl _) (.cons (.refl _) .nil))⟩
  exact ⟨settled, hsettled, hvalues ▸ rfl, hderives, hothers _ hshares, hstays⟩

end Month

end Allowance
