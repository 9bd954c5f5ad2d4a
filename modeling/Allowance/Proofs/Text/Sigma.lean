import Mathlib.Data.List.Basic
import Allowance.Text.Case

/-!
# Pieces of a text in lower case

Every character is lowered by itself, except the capital sigma, which looks at its neighbours. So a
piece of a text is lowered as if it stood alone exactly if all its capital sigmas take the form
that they take in the piece alone.
-/

namespace Allowance.Text.Case

/-- A piece of a text in lower case, given what precedes it, nearest first, and what follows. -/
def lowerWithin (before : List Char) : List Char → List Char → List Char
  | [], _ => []
  | c :: rest, after => lowerChar before c (rest ++ after) ++ lowerWithin (c :: before) rest after

theorem lowerFrom_append (before piece after : List Char) :
    lowerFrom before (piece ++ after) =
      lowerWithin before piece after ++ lowerFrom (piece.reverse ++ before) after := by
  induction piece generalizing before with
  | nil => rfl
  | cons c rest ih =>
      rw [List.cons_append, lowerFrom, lowerWithin, ih, List.append_assoc, List.reverse_cons,
        List.append_assoc, List.singleton_append]

theorem lowerWithin_nil (before piece : List Char) :
    lowerWithin before piece [] = lowerFrom before piece := by
  have h := lowerFrom_append before piece []
  rwa [List.append_nil, lowerFrom, List.append_nil, eq_comm] at h

/-! ## Characters and their neighbours -/

theorem lowerChar_sigma (before after : List Char) :
    lowerChar before 'Σ' after = [if endsWord before after then 'ς' else 'σ'] :=
  rfl

theorem lowerChar_of_ne_sigma {c : Char} (hc : c ≠ 'Σ') (before after : List Char) :
    lowerChar before c after = lowerChar [] c [] := by
  simp only [lowerChar, if_neg hc]

theorem length_lowerChar (before after : List Char) (c : Char) :
    (lowerChar before c after).length = (lowerChar [] c []).length := by
  by_cases hc : c = 'Σ'
  · rw [hc, lowerChar_sigma, lowerChar_sigma, List.length_singleton, List.length_singleton]
  · rw [lowerChar_of_ne_sigma hc]

variable {before after otherBefore otherAfter : List Char}

/-- Two neighbourhoods lower a character alike unless it is a capital sigma that ends a word in
one of them only. -/
theorem lowerChar_eq_iff {c : Char} :
    lowerChar before c after = lowerChar otherBefore c otherAfter ↔
      (c = 'Σ' → endsWord before after = endsWord otherBefore otherAfter) := by
  by_cases hc : c = 'Σ'
  · subst hc
    rw [lowerChar_sigma, lowerChar_sigma, eq_self, forall_const]
    cases endsWord before after <;> cases endsWord otherBefore otherAfter <;> decide
  · rw [lowerChar_of_ne_sigma hc before, lowerChar_of_ne_sigma hc otherBefore]
    simp [hc]

/-! ## Pieces and their neighbours -/

theorem lowerWithin_eq_iff {piece : List Char} :
    lowerWithin before piece after = lowerWithin otherBefore piece otherAfter ↔
      ∀ left right, piece = left ++ 'Σ' :: right →
        endsWord (left.reverse ++ before) (right ++ after) =
          endsWord (left.reverse ++ otherBefore) (right ++ otherAfter) := by
  induction piece generalizing before otherBefore with
  | nil => simp [lowerWithin]
  | cons c rest ih =>
      have hlength : (lowerChar before c (rest ++ after)).length =
          (lowerChar otherBefore c (rest ++ otherAfter)).length := by
        rw [length_lowerChar, length_lowerChar otherBefore]
      rw [lowerWithin, lowerWithin, List.append_eq_append_iff_of_size_eq_left hlength,
        lowerChar_eq_iff, ih]
      constructor
      · rintro ⟨hhere, hrest⟩ left right hsplit
        cases left with
        | nil =>
            obtain ⟨hc, rfl⟩ := List.cons.inj hsplit
            exact hhere hc
        | cons d left =>
            obtain ⟨rfl, hrestSplit⟩ := List.cons.inj hsplit
            simpa using hrest left right hrestSplit
      · intro h
        refine ⟨fun hc => h [] rest (by rw [hc, List.nil_append]), fun left right hsplit => ?_⟩
        simpa using h (c :: left) right (by rw [hsplit, List.cons_append])

/-- Each capital sigma of a piece ends a word of the whole text exactly if it ends a word of the
piece alone. What precedes the piece is given nearest first. -/
def KeepsSigmas (before piece after : List Char) : Prop :=
  ∀ left right, piece = left ++ 'Σ' :: right →
    endsWord (left.reverse ++ before) (right ++ after) = endsWord left.reverse right

theorem lowerWithin_eq_lowerFrom_iff {piece : List Char} :
    lowerWithin before piece after = lowerFrom [] piece ↔ KeepsSigmas before piece after := by
  rw [← lowerWithin_nil, lowerWithin_eq_iff]
  simp only [List.append_nil]
  rfl

instance (before piece after : List Char) : Decidable (KeepsSigmas before piece after) :=
  decidable_of_iff _ lowerWithin_eq_lowerFrom_iff

/-! ## Between words -/

/-- A character between words: it has no case, and it is not passed over on the way to one that
has. -/
def SeparatesWords (c : Char) : Prop :=
  isIgnorable c = false ∧ isCased c = false

theorem meetsCased_append {cs rest : List Char} (hrest : ∀ c ∈ rest.head?, SeparatesWords c) :
    meetsCased (cs ++ rest) = meetsCased cs := by
  induction cs with
  | nil =>
      cases rest with
      | nil => rfl
      | cons c rest =>
          obtain ⟨hignorable, hcased⟩ := hrest c rfl
          simp [meetsCased, hignorable, hcased]
  | cons d cs ih =>
      by_cases hd : isIgnorable d = true
      · simp only [meetsCased, List.cons_append, List.dropWhile_cons_of_pos hd] at ih ⊢
        exact ih
      · simp only [meetsCased, List.cons_append, List.dropWhile_cons_of_neg hd]

/-- A piece whose neighbours stand between words is lowered as if it stood alone. -/
theorem KeepsSigmas.of_separated {piece : List Char}
    (hbefore : ∀ c ∈ before.head?, SeparatesWords c)
    (hafter : ∀ c ∈ after.head?, SeparatesWords c) : KeepsSigmas before piece after := by
  intro left right _
  rw [endsWord, endsWord, meetsCased_append hbefore, meetsCased_append hafter]

end Allowance.Text.Case
