import Allowance.Console.Entries
import Allowance.Proofs.Money.Rounding

/-!
# Typed amounts

A text that is typed for an amount is read, or refused with a report, or too large for the decimal
arithmetic that brings it to minor units. Commands do not report the last of these.
-/

namespace Allowance.Console

open Money Number

theorem precision_le_maxExponent (currency : Currency) :
    (currency.precision : ℤ) ≤ Decimal.maxExponent := by
  cases currency <;> decide

namespace Context

variable {ctx : Context} {typed : String}

theorem amounts_of_ok {m : Money} (h : ofText typed ctx.precision = .ok m) :
    ctx.amount typed = .done m ∧ ctx.amount? (some typed) = .done (some m) := by
  rw [amount, amount?, ofText?, h]
  exact ⟨rfl, rfl⟩

theorem amounts_of_error {why : Failure} (h : ofText typed ctx.precision = .error why) :
    ctx.amount typed = .fail why ∧ ctx.amount? (some typed) = .fail why := by
  rw [amount, amount?, ofText?, h]
  exact ⟨rfl, rfl⟩

/-- A text that writes no decimal is refused, and the refusal is displayed with status one. A
decimal of less than 28 nines and a half, in minor units, is read as an amount. Beyond that it is an
invalid operation or an overflow of decimal arithmetic, and the command crashes. -/
theorem amount_outcome (ctx : Context) (typed : String) :
    match Decimal.ofText? (withoutSeparators typed) with
    | none =>
        let why : Rejection := .notMoney (.text typed)
        let line := Markup.red ("Error: " ++ why.message)
        ofText typed ctx.precision = .error (.rejected why) ∧
          ctx.amount typed = .giveUp line ∧ ctx.amount? (some typed) = .giveUp line
    | some d =>
        let units := |exactUnits d ctx.precision|
        if units < Decimal.contextLimit then
          ∃ m, ofText typed ctx.precision = .ok m ∧
            ctx.amount typed = .done m ∧ ctx.amount? (some typed) = .done (some m)
        else
          let why : Failure :=
            .decimal (if units < Decimal.overflowLimit then .invalidOperation else .overflow)
          ofText typed ctx.precision = .error why ∧
            ctx.amount typed = .leave (.crash why) ∧
            ctx.amount? (some typed) = .leave (.crash why) := by
  cases hread : Decimal.ofText? (withoutSeparators typed) with
  | none =>
      have hrefused : ofText typed ctx.precision =
          .error (.rejected (.notMoney (.text typed))) := by
        rw [ofText, hread]
      exact ⟨hrefused, amounts_of_error hrefused⟩
  | some d =>
      have hdecimal : ofText typed ctx.precision = ofDecimal d ctx.precision := by
        rw [ofText, hread]
      have houtcome := ofDecimal_outcome d (precision_le_maxExponent ctx.currency)
      rw [← precision, ← hdecimal] at houtcome
      dsimp only
      split
      next hsmall =>
        rw [if_pos hsmall] at houtcome
        obtain ⟨amount, hamount⟩ := houtcome
        exact ⟨_, hamount, amounts_of_ok hamount⟩
      next hlarge =>
        rw [if_neg hlarge] at houtcome
        exact ⟨houtcome, amounts_of_error houtcome⟩

/-- An amount of twenty-nine digits in pence is neither read nor refused. -/
theorem crashes_manyPence :
    (∀ m, ofText "1e26" Currency.gbp.precision ≠ .ok m) ∧
      (∀ why, ofText "1e26" Currency.gbp.precision ≠ .error (.rejected why)) ∧
      ∀ policy today,
        amount ⟨policy, .gbp, today⟩ "1e26" = .leave (.crash (.decimal .invalidOperation)) := by
  have hcrash : ofText "1e26" Currency.gbp.precision = .error (.decimal .invalidOperation) := by
    rfl
  refine ⟨?_, ?_, ?_⟩
  · rw [hcrash]
    nofun
  · rw [hcrash]
    nofun
  · intro policy today
    change Program.attempt (ofText "1e26" Currency.gbp.precision) = _
    rw [hcrash]
    rfl

-- One digit less is read, and much more overflows.
example : ofText "1e25" Currency.gbp.precision = .ok ⟨10 ^ 27, 2⟩ := by rfl
example : ofText "1e999999" Currency.gbp.precision = .error (.decimal .overflow) := by rfl

end Context

end Allowance.Console
