import Allowance.Currency
import Allowance.Proofs.Text.Upper

/-!
# Codes of currencies

A code names a currency in any case, and the currency keeps it in upper case. Upper-casing a code
that was upper-cased before changes nothing. Messages can show the number of digits of a currency.
-/

namespace Allowance.Currency

theorem code_ascii (currency : Currency) : ∀ c ∈ currency.code.toList, c.toNat < 0x80 := by
  cases currency <;> simp [code]

theorem code_of_ofCode {code : String} {currency : Currency} (h : ofCode code = .ok currency) :
    currency.code = Text.upper code := by
  unfold ofCode at h
  split at h
  next found hfind =>
    cases h
    simpa using List.find?_some hfind
  next => cases h

/-- The currency that an upper-cased code names has this code. -/
theorem code_of_ofCode_upper {code : String} {currency : Currency}
    (h : ofCode (Text.upper code) = .ok currency) : currency.code = Text.upper code := by
  have hcode := code_of_ofCode h
  rw [Text.upper_upper_of_ascii (hcode ▸ currency.code_ascii)] at hcode
  exact hcode

/-- Codes are in upper case. -/
theorem upper_code (currency : Currency) : Text.upper currency.code = currency.code := by
  cases currency <;> rfl

/-- The digits of a currency are few enough to be shown. -/
theorem hasNumeral_precision (currency : Currency) :
    Text.hasNumeral currency.precision = true := by
  cases currency <;> decide +kernel

end Allowance.Currency
