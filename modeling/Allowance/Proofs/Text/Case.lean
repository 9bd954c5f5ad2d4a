import Mathlib
import Allowance.Text.Case

/-!
# Texts in lower case

A text in lower case has no capital ASCII letters, and it has no characters without case that were
not in the text before.
-/

namespace Allowance.Text.Case

/-- A code point that lower-casing may bring into a text: one of a character with case, beyond the
capital ASCII letters and none of the last two of the basic plane. -/
def IsLowered (code : Nat) : Prop :=
  0x5a < code ∧ code.isValidChar ∧ code ≠ 0xfffe ∧ code ≠ 0xffff

instance (code : Nat) : Decidable (IsLowered code) := by
  unfold IsLowered
  infer_instance

/-- All runs of the table beyond ASCII stay within one part of the code space. -/
theorem lowerShifts_bounds : ∀ shift ∈ lowerShifts, 0x80 ≤ shift.last →
    0x5a < shift.first + shift.offset ∧
      (shift.last + shift.offset < 0xd800 ∨
        0xe000 ≤ shift.first + shift.offset ∧ shift.last + shift.offset < 0xfffe ∨
        0x10000 ≤ shift.first + shift.offset ∧ shift.last + shift.offset < 0x110000) := by
  decide +kernel

theorem isLowered_of_target? {shift : Shift} (hshift : shift ∈ lowerShifts) {code target : Nat}
    (hcode : 0x80 ≤ code) (htarget : shift.target? code = some target) : IsLowered target := by
  unfold Shift.target? at htarget
  split at htarget
  next hrun =>
    have hbounds := lowerShifts_bounds shift hshift (by omega)
    cases htarget
    unfold IsLowered
    omega
  next => cases htarget

theorem isUpper_iff {c : Char} : c.isUpper ↔ 0x41 ≤ c.toNat ∧ c.toNat ≤ 0x5a := by
  simp [Char.isUpper, UInt32.le_iff_toNat_le, ← Char.toNat_val]

theorem toLower_of_isLowered {c : Char} (hc : IsLowered c.toNat) : c.toLower = c := by
  apply Char.toLower_eq_of_not_isUpper
  rw [isUpper_iff]
  have := hc.1
  omega

/-- A capital ASCII letter is lowered to a letter with a larger code point. -/
theorem isLowered_toLower {c : Char} (hupper : c.isUpper) : IsLowered c.toLower.toNat := by
  have hrange := isUpper_iff.mp hupper
  have hvalid : (c.toNat + 32).isValidChar := .inl (by omega)
  rw [Char.toLower_eq_of_isUpper hupper, Char.toNat_ofNat, if_pos hvalid]
  unfold IsLowered
  omega

theorem mem_lowerChar {before after : List Char} {c d : Char}
    (hd : d ∈ lowerChar before c after) : d = c ∧ d.toLower = d ∨ IsLowered d.toNat := by
  unfold lowerChar at hd
  split at hd
  next hascii =>
    rw [List.mem_singleton] at hd
    subst hd
    by_cases hupper : c.isUpper
    · exact .inr (isLowered_toLower hupper)
    · left
      have hsame := Char.toLower_eq_of_not_isUpper hupper
      exact ⟨hsame, congrArg Char.toLower hsame⟩
  next hascii =>
    split at hd
    -- Both forms of the sigma are small letters.
    next =>
      right
      rw [List.mem_singleton] at hd
      subst hd
      split <;> decide
    next =>
      split at hd
      -- The capital I with a dot becomes two characters.
      next =>
        right
        simp only [List.mem_cons, List.not_mem_nil, or_false] at hd
        rcases hd with rfl | rfl <;> decide
      next =>
        rw [List.mem_singleton] at hd
        subst hd
        unfold mapBy
        cases hfind : lowerShifts.findSome? (·.target? c.toNat) with
        | none =>
            left
            rw [Option.getD_none, Char.ofNat_toNat]
            refine ⟨rfl, Char.toLower_eq_of_not_isUpper ?_⟩
            rw [isUpper_iff]
            omega
        | some target =>
            right
            obtain ⟨shift, hshift, htarget⟩ := List.exists_of_findSome?_eq_some hfind
            have hlowered := isLowered_of_target? hshift (by omega) htarget
            rw [Option.getD_some, Char.toNat_ofNat, if_pos hlowered.2.1]
            exact hlowered

theorem mem_lowerFrom {before cs : List Char} {d : Char} (hd : d ∈ lowerFrom before cs) :
    d ∈ cs ∧ d.toLower = d ∨ IsLowered d.toNat := by
  induction cs generalizing before with
  | nil => cases hd
  | cons c rest ih =>
      rcases List.mem_append.mp hd with hhere | hrest
      · rcases mem_lowerChar hhere with ⟨rfl, hsame⟩ | hlowered
        · exact .inl ⟨List.mem_cons_self, hsame⟩
        · exact .inr hlowered
      · rcases ih hrest with ⟨hmem, hsame⟩ | hlowered
        · exact .inl ⟨List.mem_cons_of_mem c hmem, hsame⟩
        · exact .inr hlowered

end Allowance.Text.Case

namespace Allowance.Text

theorem mem_lower {s : String} {c : Char} (hc : c ∈ (lower s).toList) :
    c ∈ s.toList ∨ Case.IsLowered c.toNat := by
  rw [lower, String.toList_ofList] at hc
  exact (Case.mem_lowerFrom hc).imp_left And.left

/-- A text in lower case has no capital ASCII letters. -/
theorem toLower_of_mem_lower {s : String} {c : Char} (hc : c ∈ (lower s).toList) :
    c.toLower = c := by
  rw [lower, String.toList_ofList] at hc
  rcases Case.mem_lowerFrom hc with ⟨_, hsame⟩ | hlowered
  · exact hsame
  · exact Case.toLower_of_isLowered hlowered

end Allowance.Text
