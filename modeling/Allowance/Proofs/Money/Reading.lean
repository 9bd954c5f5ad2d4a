import Mathlib.Algebra.Ring.Nat
import Allowance.Money.Reading
import Allowance.Proofs.Number.Decimal

/-!
# Amounts that are read back

The texts of an amount, plain or grouped, are read as that amount: what is left of them without
separators is a positional numeral, and the decimal that it writes becomes a whole number of minor
units without being rounded.
-/

namespace Allowance.Money

open Number Text

/-- The digits after the point. -/
def fraction (m : Money) : List Char :=
  if m.precision = 0 then []
  else (paddedNumeral m.precision (m.amount.natAbs % m.unit)).toList

/-- The decimal that the text of an amount writes. -/
def written (m : Money) : Decimal :=
  ⟨m.amount < 0, m.amount.natAbs, -m.precision⟩

/-! ## The digits of an amount -/

variable {m : Money}

theorem isDigit_of_mem_fraction {c : Char} (hc : c ∈ m.fraction) : c.isDigit = true := by
  unfold fraction at hc
  split at hc
  · cases hc
  · exact isDigit_of_mem_paddedNumeral hc

theorem length_fraction : m.fraction.length = m.precision := by
  unfold fraction
  split
  · next hzero => exact hzero.symm
  · next hne =>
      exact length_paddedNumeral (Nat.pos_of_ne_zero hne) (Nat.mod_lt _ (Nat.pow_pos (by decide)))

/-- The whole units and the fraction together are the digits of the minor units. -/
theorem ofDigitChars_fraction :
    Nat.ofDigitChars 10 (Nat.toDigits 10 (m.amount.natAbs / m.unit) ++ m.fraction) 0 =
      m.amount.natAbs := by
  unfold fraction
  split
  · next hzero =>
      rw [unit, hzero, tenPow_zero, Nat.div_one, List.append_nil, Nat.ofDigitChars_ten_toDigits]
  · next hne => exact ofDigitChars_div_mod (Nat.pos_of_ne_zero hne)

/-! ## Separators -/

/-- Whether a character is left when the separators are taken out. -/
def isKept (c : Char) : Bool :=
  c != ',' && c != '_'

theorem withoutSeparators_of_no_blank {s : String} (hs : ∀ c ∈ s.toList, isBlank c = false) :
    withoutSeparators s = String.ofList (s.toList.filter isKept) := by
  rw [withoutSeparators, trimChars_of_no_blank hs]
  rfl

theorem isKept_of_isDigit {c : Char} (hc : c.isDigit = true) : isKept c = true := by
  rw [isKept, Bool.and_eq_true, bne_iff_ne, bne_iff_ne]
  constructor <;>
  · rintro rfl
    cases hc

/-- Nothing but commas is written among the digits of whole units. -/
structure WritesDigits (whole : Nat → String) : Prop where
  char : ∀ n, ∀ c ∈ (whole n).toList, c.isDigit = true ∨ c = ','
  kept : ∀ n, (whole n).toList.filter isKept = Nat.toDigits 10 n

theorem writesDigits_numeral : WritesDigits numeral where
  char _ _ hc := .inl (isDigit_of_mem_numeral (String.toList_ofList ▸ hc))
  kept n := by
    rw [numeral, String.toList_ofList, List.filter_eq_self]
    exact fun c hc => isKept_of_isDigit (isDigit_of_mem_numeral hc)

theorem writesDigits_groupedNumeral : WritesDigits groupedNumeral where
  char _ _ hc := isDigit_of_mem_groupedNumeral hc
  kept _ := filter_groupedNumeral rfl fun _ hc => isKept_of_isDigit hc

/-! ## Reading -/

variable {whole : Nat → String}

theorem toList_write : (m.write "" whole).toList = Decimal.signedPositional (m.amount < 0)
    (whole (m.amount.natAbs / m.unit)).toList m.fraction := by
  have hnil : m.fraction = [] ↔ m.precision = 0 := by
    rw [← length_fraction, List.length_eq_zero_iff]
  have hrest : (if m.precision = 0 then "" else
      "." ++ paddedNumeral m.precision (m.amount.natAbs % m.unit)).toList =
        if m.fraction = [] then [] else '.' :: m.fraction := by
    simp only [hnil]
    split
    · rfl
    · next hne => rw [fraction, if_neg hne, String.toList_append]; rfl
  have hsign : (if m.amount < 0 then "-" else "").toList =
      if decide (m.amount < 0) then ['-'] else [] := by
    split <;> simp [*]
  rw [write, String.toList_append, String.toList_append, String.toList_append, hrest, hsign]
  simp [Decimal.signedPositional, Decimal.positional]

/-- Without its separators the text of an amount is a positional numeral. -/
theorem withoutSeparators_write (hwhole : WritesDigits whole) :
    withoutSeparators (m.write "" whole) = String.ofList (Decimal.signedPositional (m.amount < 0)
      (Nat.toDigits 10 (m.amount.natAbs / m.unit)) m.fraction) := by
  rw [withoutSeparators_of_no_blank, toList_write, Decimal.filter_signedPositional rfl rfl,
    hwhole.kept]
  · exact fun c hc => isKept_of_isDigit (isDigit_of_mem_fraction hc)
  · rw [toList_write]
    apply Decimal.isBlank_of_mem_signedPositional
    · intro c hc
      rcases hwhole.char _ c hc with hdigit | rfl
      · exact isBlank_of_isDigit hdigit
      · rfl
    · exact fun c hc => isBlank_of_isDigit (isDigit_of_mem_fraction hc)

section Exact

variable (hamount : m.amount.natAbs < tenPow Decimal.contextDigits)
include hamount

theorem isReadable_written (hprecision : m.precision ≤ Decimal.maxExponent) :
    m.written.isReadable = true := by
  have hdigits : m.written.digits ≤ 28 := Decimal.digits_le_contextDigits hamount
  have hexponent : m.written.exponent = -m.precision := rfl
  have hlimits : Decimal.maxExponent = 999999 ∧ Decimal.readLimit = 999999999999999999 ∧
    Decimal.readFloor = -1999999999999999997 := ⟨rfl, rfl, rfl⟩
  rw [Decimal.isReadable, Bool.and_eq_true, decide_eq_true_iff, decide_eq_true_iff,
    Decimal.leading]
  split <;> omega

theorem ofDecimal_written (hprecision : m.precision ≤ Decimal.maxExponent) :
    ofDecimal m.written m.precision = .ok m := by
  have hsigned : (if decide (m.amount < 0) = true then -(m.amount.natAbs : Int)
      else m.amount.natAbs) = m.amount := by
    simp only [decide_eq_true_eq]
    split <;> omega
  rw [ofDecimal, written, Decimal.timesPowerOfTen_eq_whole hamount hprecision]
  simp only [Failure.ofSignal, bind, Except.bind, Decimal.toWhole_eq_signed hamount, hsigned]
  rfl

/-- An amount of few enough digits is read back from its text, with or without separators. -/
theorem ofText_write (hwhole : WritesDigits whole)
    (hprecision : m.precision ≤ Decimal.maxExponent) :
    ofText (m.write "" whole) m.precision = .ok m := by
  have hread : Decimal.ofText? (withoutSeparators (m.write "" whole)) = some m.written := by
    rw [withoutSeparators_write hwhole]
    refine Decimal.ofText?_signedPositional ?_ (fun c hc => isDigit_of_mem_numeral hc)
      (fun c hc => isDigit_of_mem_fraction hc) ?_ (isReadable_written hamount hprecision)
    · exact Nat.toDigits_ne_nil
    · rw [ofDigitChars_fraction, length_fraction]
      rfl
  rw [ofText, hread]
  exact ofDecimal_written hamount hprecision

end Exact

/-- The text of an amount, as a text or as a value in a document, and its form for a reader without
a symbol are read as the amount itself, up to the number of digits that decimals keep. -/
theorem encodings_read_back (m : Money) (hamount : m.amount.natAbs < 10 ^ 28)
    (hprecision : m.precision ≤ 27) :
    ofText m.text m.precision = .ok m ∧
    ofValue (.text m.text) m.precision = .ok m ∧
    ofText (m.format "") m.precision = .ok m := by
  have hmax : m.precision ≤ Decimal.maxExponent := by
    have : Decimal.maxExponent = 999999 := rfl
    omega
  have hplain : ofText m.text m.precision = .ok m :=
    ofText_write hamount writesDigits_numeral hmax
  have hgrouped : ofText (m.format "") m.precision = .ok m :=
    ofText_write hamount writesDigits_groupedNumeral hmax
  exact ⟨hplain, hplain, hgrouped⟩

/-- The most digits that are kept, with commas and all but one of them after the point. -/
theorem read_back_longest :
    let whole : Money := ⟨-9999999999999999999999999999, 0⟩
    let fraction : Money := ⟨9999999999999999999999999999, 27⟩
    whole.format "" = "-9,999,999,999,999,999,999,999,999,999" ∧
    fraction.text = "9.999999999999999999999999999" ∧
    ofText (whole.format "") whole.precision = .ok whole ∧
    ofText fraction.text fraction.precision = .ok fraction := by
  refine ⟨by decide, by decide, ?_, ?_⟩
  · exact (encodings_read_back _ (by decide) (by decide)).2.2
  · exact (encodings_read_back _ (by decide) (by decide)).1

-- One more minor unit is one digit too many.
example : ofText (text ⟨10 ^ 28, 2⟩) 2 = .error (.decimal .invalidOperation) := by rfl

end Allowance.Money
