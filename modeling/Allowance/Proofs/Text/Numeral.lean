import Mathlib.Data.List.Basic
import Allowance.Text.Numeral
import Allowance.Proofs.Text.Blank

/-!
# Numerals that are read back

The ASCII digits of a number are read as that number, and so are those after a padding of zeros. A
numeral with commas between the thousands is the plain one without them.
-/

namespace Allowance.Text

open Number

/-! ## Digits -/

theorem toNat_of_isDigit {c : Char} (hc : c.isDigit = true) : 48 ≤ c.toNat ∧ c.toNat ≤ 57 := by
  simpa [Char.isDigit, UInt32.le_iff_toNat_le, ← Char.toNat_val] using hc

theorem isBlank_of_isDigit {c : Char} (hc : c.isDigit = true) : isBlank c = false := by
  have hrange := toNat_of_isDigit hc
  simp only [isBlank, inRanges, blankRanges, List.any_eq_false, List.mem_cons, List.not_mem_nil,
    or_false, forall_eq_or_imp, forall_eq]
  simp only [Bool.and_eq_true, decide_eq_true_eq]
  omega

theorem digitValue?_of_isDigit {c : Char} (hc : c.isDigit = true) :
    digitValue? c = some (c.toNat - '0'.toNat) := by
  have hrange := toNat_of_isDigit hc
  rw [digitValue?, zeroDigits, List.find?_cons_of_pos]
  · rfl
  · simpa using hrange

/-- ASCII digits are read as the number that they write. -/
theorem digitsValue?_of_isDigit {cs : List Char} (hcs : ∀ c ∈ cs, c.isDigit = true) :
    digitsValue? cs = some (Nat.ofDigitChars 10 cs 0) := by
  suffices ∀ start : Nat, cs.foldl (fun value c => do
      return 10 * (← value) + (← digitValue? c)) (some start) =
        some (Nat.ofDigitChars 10 cs start) from this 0
  induction cs with
  | nil => simp
  | cons c rest ih =>
      intro start
      obtain ⟨hc, hrest⟩ := List.forall_mem_cons.mp hcs
      rw [List.foldl_cons, digitValue?_of_isDigit hc, Nat.ofDigitChars_cons]
      exact ih hrest _

theorem isDigit_of_mem_numeral {n : Nat} {c : Char} (hc : c ∈ Nat.toDigits 10 n) :
    c.isDigit = true :=
  Nat.isDigit_of_mem_toDigits (by decide) (by decide) hc

theorem digitCount_le_iff {n count : Nat} (hcount : 0 < count) :
    digitCount n ≤ count ↔ n < tenPow count :=
  Nat.length_toDigits_le_iff (by decide) hcount

/-! ## Padded numerals -/

variable {width n : Nat}

theorem toList_paddedNumeral : (paddedNumeral width n).toList =
    List.replicate (width - digitCount n) '0' ++ Nat.toDigits 10 n :=
  String.toList_ofList

theorem isDigit_of_mem_paddedNumeral {c : Char} (hc : c ∈ (paddedNumeral width n).toList) :
    c.isDigit = true := by
  rw [toList_paddedNumeral] at hc
  rcases List.mem_append.mp hc with hzero | hdigit
  · rw [List.eq_of_mem_replicate hzero]
    rfl
  · exact isDigit_of_mem_numeral hdigit

theorem length_paddedNumeral (hwidth : 0 < width) (hn : n < tenPow width) :
    (paddedNumeral width n).toList.length = width := by
  have hcount : digitCount n ≤ width := (digitCount_le_iff hwidth).mpr hn
  rw [toList_paddedNumeral, List.length_append, List.length_replicate]
  change width - digitCount n + digitCount n = width
  omega

theorem ofDigitChars_paddedNumeral : Nat.ofDigitChars 10 (paddedNumeral width n).toList 0 = n := by
  rw [toList_paddedNumeral, Nat.ofDigitChars_append, Nat.ofDigitChars_replicate_zero, Nat.mul_zero,
    Nat.ofDigitChars_ten_toDigits]

/-- The digits of a quotient and the padded ones of its remainder are those of the number. -/
theorem ofDigitChars_div_mod (hwidth : 0 < width) : Nat.ofDigitChars 10
    (Nat.toDigits 10 (n / tenPow width) ++ (paddedNumeral width (n % tenPow width)).toList) 0 =
      n := by
  have hrest : n % tenPow width < tenPow width := Nat.mod_lt _ (Nat.pow_pos (by decide))
  rw [Nat.ofDigitChars_append, Nat.ofDigitChars_ten_toDigits,
    Nat.ofDigitChars_eq_ofDigitChars_zero, ofDigitChars_paddedNumeral,
    length_paddedNumeral hwidth hrest]
  exact Nat.div_add_mod n (tenPow width)

/-! ## Grouped numerals -/

/-- Taking the commas out again leaves the digits. -/
theorem filter_groupReversed {isKept : Char → Bool} {digits : List Char}
    (hcomma : isKept ',' = false) (hdigits : ∀ c ∈ digits, isKept c = true) :
    (groupReversed digits).filter isKept = digits := by
  fun_induction groupReversed digits with
  | case1 first second third fourth rest ih =>
      simp only [List.forall_mem_cons] at hdigits
      obtain ⟨hfirst, hsecond, hthird, hrest⟩ := hdigits
      simp [hfirst, hsecond, hthird, hcomma, ih (List.forall_mem_cons.mpr hrest)]
  | case2 digits => exact List.filter_eq_self.mpr hdigits

theorem filter_groupedNumeral {isKept : Char → Bool} (hcomma : isKept ',' = false)
    (hdigits : ∀ c : Char, c.isDigit = true → isKept c = true) :
    (groupedNumeral n).toList.filter isKept = Nat.toDigits 10 n := by
  rw [groupedNumeral, String.toList_ofList, List.filter_reverse, filter_groupReversed hcomma,
    List.reverse_reverse]
  intro c hc
  exact hdigits c (isDigit_of_mem_numeral (List.mem_reverse.mp hc))

theorem isDigit_of_mem_groupedNumeral {c : Char} (hc : c ∈ (groupedNumeral n).toList) :
    c.isDigit = true ∨ c = ',' := by
  by_cases hcomma : c = ','
  · exact .inr hcomma
  · have hkept : c ∈ (groupedNumeral n).toList.filter (· != ',') := by
      simp [hc, hcomma]
    rw [filter_groupedNumeral rfl] at hkept
    · exact .inl (isDigit_of_mem_numeral hkept)
    · rintro d hd
      rw [bne_iff_ne]
      rintro rfl
      cases hd

end Allowance.Text
