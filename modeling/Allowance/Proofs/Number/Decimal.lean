import Mathlib.Data.List.TakeWhile
import Allowance.Number.Decimal.Text
import Allowance.Proofs.Text.Numeral

/-!
# Decimals that are read and computed exactly

A numeral of digits around a decimal point is read as the number that it writes. Nothing is rounded
in the context as long as a coefficient has at most as many digits as the context keeps.
-/

namespace Allowance.Number.Decimal

open Text

/-! ## Positional numerals -/

/-- Whole digits and a fraction, with a decimal point only before a fraction. -/
def positional (whole fraction : List Char) : List Char :=
  whole ++ if fraction = [] then [] else '.' :: fraction

/-- A positional numeral after a minus sign, if there is to be one. -/
def signedPositional (negative : Bool) (whole fraction : List Char) : List Char :=
  (if negative then ['-'] else []) ++ positional whole fraction

section Reading

variable {negative : Bool} {whole fraction : List Char}

theorem mem_positional {c : Char} (hc : c ∈ positional whole fraction) :
    c ∈ whole ∨ c = '.' ∨ c ∈ fraction := by
  rcases List.mem_append.mp hc with hc | hc
  · exact .inl hc
  · split at hc
    · cases hc
    · exact .inr (List.mem_cons.mp hc)

theorem mem_signedPositional {c : Char} (hc : c ∈ signedPositional negative whole fraction) :
    c = '-' ∨ c ∈ positional whole fraction := by
  rcases List.mem_append.mp hc with hc | hc
  · split at hc
    · exact .inl (List.mem_singleton.mp hc)
    · cases hc
  · exact .inr hc

theorem isBlank_of_mem_signedPositional (hwhole : ∀ c ∈ whole, isBlank c = false)
    (hfraction : ∀ c ∈ fraction, isBlank c = false) :
    ∀ c ∈ signedPositional negative whole fraction, isBlank c = false := by
  intro c hc
  rcases mem_signedPositional hc with rfl | hc
  · rfl
  · rcases mem_positional hc with hc | rfl | hc
    · exact hwhole c hc
    · rfl
    · exact hfraction c hc

/-- What is kept of the whole digits is all that a filter decides if it keeps everything else. -/
theorem filter_signedPositional {isKept : Char → Bool} (hminus : isKept '-' = true)
    (hpoint : isKept '.' = true) (hfraction : ∀ c ∈ fraction, isKept c = true) :
    (signedPositional negative whole fraction).filter isKept =
      signedPositional negative (whole.filter isKept) fraction := by
  have hsign : (if negative then ['-'] else []).filter isKept = if negative then ['-'] else [] := by
    cases negative
    · rfl
    · exact List.filter_cons_of_pos hminus
  have hrest : (if fraction = [] then [] else '.' :: fraction).filter isKept =
      if fraction = [] then [] else '.' :: fraction := by
    split
    · rfl
    · rw [List.filter_cons_of_pos hpoint, List.filter_eq_self.mpr hfraction]
  rw [signedPositional, positional, List.filter_append, List.filter_append, hsign, hrest]
  rfl

theorem splitSign_signedPositional (hne : whole ≠ []) (hwhole : ∀ c ∈ whole, c.isDigit = true) :
    splitSign (signedPositional negative whole fraction) =
      (negative, positional whole fraction) := by
  cases negative with
  | true => rfl
  | false =>
      obtain ⟨first, rest, rfl⟩ := List.exists_cons_of_ne_nil hne
      have hfirst := hwhole first List.mem_cons_self
      simp only [signedPositional, positional, List.cons_append]
      unfold splitSign
      split
      · next heq => cases heq; cases hfirst
      · next heq => cases heq; cases hfirst
      · rfl

/-- The point separates the whole digits from the fraction. -/
theorem mantissa?_positional (hne : whole ≠ []) (hwhole : ∀ c ∈ whole, c.isDigit = true)
    (hfraction : ∀ c ∈ fraction, c.isDigit = true) : mantissa? (positional whole fraction) =
      some (Nat.ofDigitChars 10 (whole ++ fraction) 0, -(fraction.length : Int)) := by
  have hpoint : ∀ c ∈ whole, decide (c ≠ '.') = true := by
    intro c hc
    rw [decide_eq_true_iff]
    rintro rfl
    cases hwhole _ hc
  have htake : (positional whole fraction).takeWhile (· ≠ '.') = whole := by
    rw [positional, List.takeWhile_append_of_pos hpoint]
    split <;> simp
  have hdrop : ((positional whole fraction).dropWhile (· ≠ '.')).drop 1 = fraction := by
    rw [positional, List.dropWhile_append_of_pos hpoint]
    split <;> simp_all
  have hdigits : ∀ c ∈ whole ++ fraction, c.isDigit = true := by
    intro c hc
    exact (List.mem_append.mp hc).elim (hwhole c) (hfraction c)
  rw [mantissa?, htake, hdrop, if_neg (by simp [hne]), digitsValue?_of_isDigit hdigits]
  rfl

/-- A positional numeral is read as its digits, scaled by the length of its fraction. -/
theorem ofText?_signedPositional (hne : whole ≠ []) (hwhole : ∀ c ∈ whole, c.isDigit = true)
    (hfraction : ∀ c ∈ fraction, c.isDigit = true) {d : Decimal}
    (hd : d = ⟨negative, Nat.ofDigitChars 10 (whole ++ fraction) 0, -fraction.length⟩)
    (hreadable : d.isReadable = true) :
    ofText? (String.ofList (signedPositional negative whole fraction)) = some d := by
  have hblank : ∀ c ∈ signedPositional negative whole fraction, isBlank c = false :=
    isBlank_of_mem_signedPositional (fun c hc => isBlank_of_isDigit (hwhole c hc))
      fun c hc => isBlank_of_isDigit (hfraction c hc)
  have hmark : ∀ c ∈ positional whole fraction,
      (!(decide (c = 'e') || decide (c = 'E'))) = true := by
    intro c hc
    rw [Bool.not_eq_true', Bool.or_eq_false_iff, decide_eq_false_iff_not, decide_eq_false_iff_not]
    refine ⟨?_, ?_⟩ <;>
    · rintro rfl
      rcases mem_positional hc with hc | hc | hc
      · cases hwhole _ hc
      · cases hc
      · cases hfraction _ hc
  subst hd
  simp only [ofText?, String.toList_ofList, trimChars_of_no_blank hblank,
    splitSign_signedPositional hne hwhole, List.takeWhile_eq_self_iff.mpr hmark,
    List.dropWhile_eq_nil_iff.mpr hmark, mantissa?_positional hne hwhole hfraction,
    Option.bind_eq_bind, Option.bind_some, Int.add_zero, if_pos hreadable]

end Reading

/-! ## Values that fit the context -/

variable {d : Decimal}

theorem digits_le_contextDigits (hd : d.coefficient < tenPow contextDigits) :
    d.digits ≤ contextDigits :=
  (digitCount_le_iff (by decide)).mpr hd

theorem dropDigits_zero (coefficient : Nat) : dropDigits coefficient 0 = coefficient := by
  simp [dropDigits, Number.divHalfEven, tenPow_zero, Nat.mod_one]

/-- A decimal of few digits that is not too large or too small stays as it is. -/
theorem fit_eq_self (hd : d.coefficient < tenPow contextDigits) (hmin : minExponent ≤ d.exponent)
    (hmax : d.exponent + contextDigits ≤ maxExponent) : d.fit = .ok d := by
  have hdigits := digits_le_contextDigits hd
  by_cases hzero : d.coefficient = 0
  · have hexponent : max minExponent (min maxExponent d.exponent) = d.exponent := by omega
    rw [fit, if_pos hzero, hexponent]
  · have hexcess :
        (max ((d.digits : Int) - contextDigits) (minExponent - d.exponent)).toNat = 0 := by
      omega
    have hleading : ¬ maxExponent < d.leading := by
      rw [leading]
      omega
    rw [fit, if_neg hzero]
    simp only [hexcess, dropDigits_zero, Int.natCast_zero, Int.add_zero, if_neg hd.ne,
      if_neg hleading]

/-- A decimal is brought to the power of ten that makes it a whole number. -/
theorem timesPowerOfTen_eq_whole {negative : Bool} {coefficient power : Nat}
    (hcoefficient : coefficient < tenPow contextDigits) (hpower : power ≤ maxExponent) :
    timesPowerOfTen ⟨negative, coefficient, -power⟩ power = .ok ⟨negative, coefficient, 0⟩ := by
  have hmin : ¬ (power : Int) < minExponent := by
    have : minExponent ≤ 0 := by decide
    omega
  rw [timesPowerOfTen, if_neg (Int.not_lt.mpr hpower), if_neg hmin, Int.add_left_neg]
  exact fit_eq_self hcoefficient (by decide : minExponent ≤ 0)
    (by decide : 0 + (contextDigits : Int) ≤ maxExponent)

theorem toWhole_eq_signed {negative : Bool} {coefficient : Nat}
    (hcoefficient : coefficient < tenPow contextDigits) :
    toWhole ⟨negative, coefficient, 0⟩ = .ok (if negative then -coefficient else coefficient) := by
  have hcount : digitCount coefficient ≤ contextDigits := digits_le_contextDigits
    (d := ⟨negative, coefficient, 0⟩) hcoefficient
  have hleading : leading ⟨negative, coefficient, 0⟩ = digitCount coefficient - 1 := by
    rw [leading, digits, Int.zero_add]
  by_cases hzero : coefficient = 0
  · subst hzero
    cases negative <;> rfl
  · have hsmall : ¬ (coefficient = 0 ∨ leading ⟨negative, coefficient, 0⟩ < -1) := by omega
    have hlarge : ¬ (contextDigits : Int) ≤ leading ⟨negative, coefficient, 0⟩ := by omega
    rw [toWhole, if_neg hsmall, if_neg hlarge, if_neg (Int.lt_irrefl 0)]
    simp [tenPow_zero]

end Allowance.Number.Decimal
