import Mathlib.Data.List.DropRight
import Mathlib.Data.List.TakeWhile
import Allowance.Text.Blank

/-!
# Trimmed texts

A text that has been trimmed neither starts nor ends with a blank. Nothing is left of a text by
trimming it exactly if all of it is blank, and a text without blanks stays as it is.
-/

namespace Allowance.Text

/-- Neither the first nor the last character of a text is blank. -/
def HasBareEnds (s : String) : Prop :=
  (∀ c ∈ s.toList.head?, isBlank c = false) ∧ ∀ c ∈ s.toList.getLast?, isBlank c = false

theorem trimBy_eq_rdropWhile (isDropped : Char → Bool) (cs : List Char) :
    trimBy isDropped cs = (cs.dropWhile isDropped).rdropWhile isDropped :=
  rfl

@[simp] theorem toList_trim (s : String) : (trim s).toList = trimChars s.toList :=
  String.toList_ofList

theorem hasBareEnds_trim (s : String) : HasBareEnds (trim s) := by
  rw [HasBareEnds, toList_trim, trimChars, trimBy_eq_rdropWhile]
  constructor
  · intro c hc
    -- What is dropped from the end leaves the first character as the other end has it.
    obtain ⟨dropped, hdropped⟩ := List.rdropWhile_prefix isBlank (s.toList.dropWhile isBlank)
    have hfirst := List.head?_dropWhile_not isBlank s.toList
    rw [← hdropped, List.head?_append, Option.mem_def.mp hc] at hfirst
    exact hfirst
  · intro c hc
    obtain ⟨hne, rfl⟩ := List.mem_getLast?_eq_getLast hc
    simpa using List.rdropWhile_last_not isBlank _ hne

theorem trimChars_eq_nil_iff {cs : List Char} :
    trimChars cs = [] ↔ ∀ c ∈ cs, isBlank c = true := by
  rw [trimChars, trimBy_eq_rdropWhile, List.rdropWhile_eq_nil_iff, ← List.dropWhile_eq_nil_iff,
    List.dropWhile_idempotent, List.dropWhile_eq_nil_iff]

/-- Trimming leaves nothing of blank texts, and of no others. -/
theorem trim_eq_empty_iff {s : String} : trim s = "" ↔ isBlankText s = true := by
  rw [isBlankText, List.all_eq_true, ← trimChars_eq_nil_iff, ← toList_trim,
    String.toList_eq_nil_iff]

/-- A text that starts with another character than a blank is not blank. -/
theorem HasBareEnds.isBlankText_eq_false {s : String} (h : HasBareEnds s) (hne : s ≠ "") :
    isBlankText s = false := by
  obtain ⟨first, rest, hs⟩ := List.exists_cons_of_ne_nil (mt String.toList_eq_nil_iff.mp hne)
  have hfirst : isBlank first = false := h.1 first (by rw [hs]; rfl)
  rw [isBlankText, hs, List.all_cons, hfirst, Bool.false_and]

theorem trimChars_of_no_blank {cs : List Char} (hcs : ∀ c ∈ cs, isBlank c = false) :
    trimChars cs = cs := by
  have hfirst : cs.dropWhile isBlank = cs := by
    rw [List.dropWhile_eq_self_iff]
    intro hne
    simp [hcs _ (List.getElem_mem hne)]
  rw [trimChars, trimBy_eq_rdropWhile, hfirst, List.rdropWhile_eq_self_iff]
  intro hne
  simp [hcs _ (List.getLast_mem hne)]

end Allowance.Text
