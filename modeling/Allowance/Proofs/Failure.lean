import Allowance.Failure

/-!
# Refusals that can be written

A refusal is reported if the numbers in its message have few enough digits. Otherwise writing the
message fails in its place.
-/

namespace Allowance.Failure

/-- A refusal that is reported is the one that was meant. -/
theorem ofRejection_eq_rejected {why reason : Rejection}
    (h : ofRejection why = .rejected reason) : reason = why := by
  unfold ofRejection at h
  split at h
  next => exact (Failure.rejected.inj h).symm
  next => cases h

theorem ofRejection_tooPrecise (amount : Money) (digits : Int) :
    ofRejection (.tooPrecise amount digits) =
      if amount.hasText = true ∧ Text.hasNumeral digits = true then
        .rejected (.tooPrecise amount digits)
      else .longNumeral := by
  simp only [ofRejection, Rejection.isWritable, Bool.and_eq_true]

end Allowance.Failure
