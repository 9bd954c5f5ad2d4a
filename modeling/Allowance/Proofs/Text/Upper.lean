import Allowance.Proofs.Text.Case

/-!
# Texts in upper case

An upper-cased text has no small ASCII letters and no characters that would become ASCII letters
only now. So one whose upper case lies within ASCII is in upper case already.
-/

namespace Allowance.Text.Case

/-- The code points beyond ASCII whose upper case lies within ASCII: the dotless i, the long and the
sharp s and the ligatures of small letters. -/
def asciiCased : List Nat :=
  [0x131, 0x17f, 0xdf, 0xfb00, 0xfb01, 0xfb02, 0xfb03, 0xfb04, 0xfb05, 0xfb06]

/-- A code point other than an ASCII capital whose upper case lies within ASCII. -/
def IsSmall (code : Nat) : Prop :=
  0x61 ≤ code ∧ code ≤ 0x7a ∨ code ∈ asciiCased

instance (code : Nat) : Decidable (IsSmall code) := by
  unfold IsSmall
  infer_instance

/-- The code points of a run. -/
def Shift.sources (shift : Shift) : List Nat :=
  (List.range ((shift.last - shift.first) / shift.step + 1)).map fun i =>
    shift.first + i * shift.step

theorem Shift.target?_eq_some {shift : Shift} {code target : Nat}
    (h : shift.target? code = some target) :
    code ∈ shift.sources ∧ target = (code + shift.offset).toNat := by
  unfold Shift.target? at h
  split at h
  next hrun =>
    refine ⟨List.mem_map.mpr ⟨(code - shift.first) / shift.step, ?_, ?_⟩, (Option.some.inj h).symm⟩
    · rw [List.mem_range, Nat.lt_succ_iff]
      exact Nat.div_le_div_right (by omega)
    · have hsteps := Nat.div_mul_cancel (Nat.dvd_of_mod_eq_zero hrun.2.2)
      omega
  next => cases h

/-- No run leads to a small code point, and only small ones are taken into ASCII. -/
theorem upperShifts_targets : ∀ shift ∈ upperShifts, ∀ code ∈ shift.sources,
    (code + shift.offset).toNat.isValidChar ∧ ¬ IsSmall (code + shift.offset).toNat ∧
      ((code + shift.offset).toNat < 0x80 → IsSmall code) := by
  decide +kernel

theorem upperExpansions_targets : ∀ expansion ∈ upperExpansions,
    (∀ code ∈ expansion.2, code.isValidChar ∧ ¬ IsSmall code) ∧
      ((∀ code ∈ expansion.2, code < 0x80) → IsSmall expansion.1) := by
  decide +kernel

theorem mem_of_lookup {entries : List (Nat × List Nat)} {key : Nat} {value : List Nat}
    (h : entries.lookup key = some value) : (key, value) ∈ entries := by
  obtain ⟨before, after, rfl, _⟩ := List.lookup_eq_some_iff.mp h
  exact List.mem_append_right _ List.mem_cons_self

theorem isLower_iff {c : Char} : c.isLower ↔ 0x61 ≤ c.toNat ∧ c.toNat ≤ 0x7a := by
  simp [Char.isLower, UInt32.le_iff_toNat_le, ← Char.toNat_val]

/-- Everything that a character can become in upper case. -/
theorem upperChar_cases (c : Char) :
    (c.isLower ∧ upperChar c = [Char.ofNat (c.toNat - 0x20)]) ∨ upperChar c = [c] ∨
      (∃ codes, (c.toNat, codes) ∈ upperExpansions ∧ upperChar c = codes.map Char.ofNat) ∨
      ∃ shift ∈ upperShifts, c.toNat ∈ shift.sources ∧
        upperChar c = [Char.ofNat (c.toNat + shift.offset).toNat] := by
  unfold upperChar
  split
  next =>
    by_cases hlower : c.isLower
    · exact .inl ⟨hlower, congrArg (fun d => [d]) (Char.toUpper_eq_of_isLower hlower)⟩
    · exact .inr (.inl (congrArg (fun d => [d]) (Char.toUpper_eq_of_not_isLower hlower)))
  next =>
    split
    next codes hlookup => exact .inr (.inr (.inl ⟨codes, mem_of_lookup hlookup, rfl⟩))
    next =>
      unfold mapBy
      cases hfind : upperShifts.findSome? (·.target? c.toNat) with
      | none => exact .inr (.inl (by rw [Option.getD_none, Char.ofNat_toNat]))
      | some target =>
          obtain ⟨shift, hshift, htarget⟩ := List.exists_of_findSome?_eq_some hfind
          obtain ⟨hsource, rfl⟩ := Shift.target?_eq_some htarget
          exact .inr (.inr (.inr ⟨shift, hshift, hsource, rfl⟩))

theorem toNat_ofNat_of_isValidChar {code : Nat} (h : code.isValidChar) :
    (Char.ofNat code).toNat = code := by
  rw [Char.toNat_ofNat, if_pos h]

/-- Upper-casing brings no small character into a text. -/
theorem mem_upperChar {c d : Char} (hd : d ∈ upperChar c) :
    upperChar d = [d] ∨ ¬ IsSmall d.toNat := by
  rcases upperChar_cases c with
    ⟨hlower, heq⟩ | heq | ⟨codes, hcodes, heq⟩ | ⟨shift, hshift, hc, heq⟩
  · rw [heq, List.mem_singleton] at hd
    subst hd
    have hrange := isLower_iff.mp hlower
    have hnumber : (Char.ofNat (c.toNat - 0x20)).toNat = c.toNat - 0x20 :=
      toNat_ofNat_of_isValidChar (.inl (by omega))
    refine .inr fun hsmall => ?_
    rw [hnumber, IsSmall] at hsmall
    simp only [asciiCased, List.mem_cons, List.not_mem_nil, or_false] at hsmall
    omega
  · have hsame : d = c := by simpa [heq] using hd
    exact .inl (hsame ▸ heq)
  · rw [heq] at hd
    obtain ⟨code, hcode, rfl⟩ := List.mem_map.mp hd
    obtain ⟨hvalid, hsmall⟩ := (upperExpansions_targets _ hcodes).1 code hcode
    exact .inr (by rwa [toNat_ofNat_of_isValidChar hvalid])
  · rw [heq, List.mem_singleton] at hd
    subst hd
    obtain ⟨hvalid, hsmall, _⟩ := upperShifts_targets shift hshift _ hc
    exact .inr (by rwa [toNat_ofNat_of_isValidChar hvalid])

/-- A character whose upper case lies within ASCII is small or stays as it is. -/
theorem upperChar_of_ascii {c : Char} (hascii : ∀ d ∈ upperChar c, d.toNat < 0x80)
    (hsmall : ¬ IsSmall c.toNat) : upperChar c = [c] := by
  rcases upperChar_cases c with ⟨hlower, _⟩ | heq | ⟨codes, hcodes, heq⟩ | ⟨shift, hshift, hc, heq⟩
  · exact absurd (.inl (isLower_iff.mp hlower)) hsmall
  · exact heq
  · obtain ⟨hvalid, hcased⟩ := upperExpansions_targets _ hcodes
    refine absurd (hcased fun code hcode => ?_) hsmall
    have := hascii (Char.ofNat code) (heq ▸ List.mem_map_of_mem hcode)
    rwa [toNat_ofNat_of_isValidChar (hvalid code hcode).1] at this
  · obtain ⟨hvalid, _, hcased⟩ := upperShifts_targets shift hshift _ hc
    refine absurd (hcased ?_) hsmall
    have := hascii _ (heq ▸ List.mem_singleton_self _)
    rwa [toNat_ofNat_of_isValidChar hvalid] at this

end Allowance.Text.Case

namespace Allowance.Text

/-- Upper-casing a text again changes nothing if the outcome is an ASCII text. -/
theorem upper_upper_of_ascii {s : String}
    (hascii : ∀ c ∈ (upper (upper s)).toList, c.toNat < 0x80) : upper (upper s) = upper s := by
  have hchar : ∀ c ∈ (upper s).toList, Case.upperChar c = [c] := by
    intro c hc
    have hfixed : c ∈ s.toList.flatMap Case.upperChar := by
      simpa [upper] using hc
    obtain ⟨source, _, hsource⟩ := List.mem_flatMap.mp hfixed
    rcases Case.mem_upperChar hsource with heq | hsmall
    · exact heq
    · refine Case.upperChar_of_ascii (fun d hd => hascii d ?_) hsmall
      rw [upper, String.toList_ofList]
      exact List.mem_flatMap.mpr ⟨c, hc, hd⟩
  have hsame : (upper s).toList.flatMap Case.upperChar = (upper s).toList := by
    rw [List.flatMap_congr hchar, List.flatMap_singleton']
  rw [upper, hsame, String.ofList_toList]

end Allowance.Text
