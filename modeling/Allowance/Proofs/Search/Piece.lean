import Allowance.Proofs.Search.Pattern
import Allowance.Proofs.Text.Sigma
import Allowance.Search.Query

/-!
# Searching for a piece of a text

Whoever searches for a piece of a title or of notes finds the spend, as long as the piece looks in
lower case as it does within the whole text. The capital sigma is the only character that can
prevent this: at the end of the piece it becomes a final sigma, in the middle of a word it does not.
-/

namespace Allowance.Text

/-- A piece of a text in lower case, given what precedes it and what follows. -/
def lowerPart (before piece after : String) : String :=
  String.ofList (Case.lowerWithin before.toList.reverse piece.toList after.toList)

/-- Each capital sigma of a piece ends a word of the whole text exactly if it ends a word of the
piece alone. -/
def KeepsSigmas (before piece after : String) : Prop :=
  Case.KeepsSigmas before.toList.reverse piece.toList after.toList

instance (before piece after : String) : Decidable (KeepsSigmas before piece after) :=
  inferInstanceAs (Decidable (Case.KeepsSigmas _ _ _))

theorem lower_append (before piece after : String) :
    lower (before ++ piece ++ after) =
      lowerPart "" before (piece ++ after) ++ lowerPart before piece after ++
        lowerPart (before ++ piece) after "" := by
  simp only [lower, lowerPart, String.append_assoc, String.toList_append, String.toList_empty,
    Case.lowerFrom_append, Case.lowerWithin_nil, String.ofList_append, List.reverse_append,
    List.reverse_nil, List.append_nil]

theorem lowerPart_eq_lower_iff {before piece after : String} :
    lowerPart before piece after = lower piece ↔ KeepsSigmas before piece after := by
  rw [lowerPart, lower, String.ofList_inj, Case.lowerWithin_eq_lowerFrom_iff]
  rfl

/-- The texts on both sides of a percent sign are lowered as if each stood alone. -/
theorem lower_append_percent (left right : String) :
    lower (left ++ "%" ++ right) = lower left ++ "%" ++ lower right := by
  have hpercent : Case.SeparatesWords '%' := by
    constructor <;> decide +kernel
  have hleft : lowerPart "" left ("%" ++ right) = lower left := by
    apply lowerPart_eq_lower_iff.mpr
    apply Case.KeepsSigmas.of_separated
    · simp
    · simpa using hpercent
  have hright : lowerPart (left ++ "%") right "" = lower right := by
    apply lowerPart_eq_lower_iff.mpr
    apply Case.KeepsSigmas.of_separated
    · simpa using hpercent
    · simp
  rw [lower_append, hleft, hright]
  rfl

end Allowance.Text

namespace Allowance.Search

theorem toList_patternOf (text : String) :
    (patternOf false text).toList = wildcard :: (text.toList ++ [wildcard]) := by
  simp [patternOf]

theorem matchesPattern_patternOf (before text after : String) :
    matchesPattern (patternOf false text) (before ++ text ++ after) = true := by
  have hafter : Expands [wildcard] after.toList :=
    expands_wildcard_cons.mpr ⟨after.toList, [], by simp, .nil⟩
  have htext : Expands (text.toList ++ [wildcard]) (text.toList ++ after.toList) :=
    expands_append.mpr ⟨_, _, rfl, .refl _, hafter⟩
  rw [matchesPattern_iff, toList_patternOf]
  simpa using Expands.run before.toList htext

/-- The search for a text in one field, without any other condition. -/
def TextField.searchFor (text : String) : TextField → Criteria
  | title => { Criteria.all with title := text }
  | notes => { Criteria.all with notes := text }

theorem accepts_searchFor {text : String} (htext : text ≠ "") (field : TextField)
    (row : SpendRecord) : (field.searchFor text).query.accepts row =
      matchesPattern (patternOf false (Text.lower text)) (Text.lower (field.read row)) := by
  have hfilters : (field.searchFor text).query.filters =
      [.like field (patternOf false (Text.lower text))] := by
    cases field <;>
      simp [TextField.searchFor, Criteria.query, Criteria.all, textFilter, dateFilter, costFilter,
        typeFilter, htext]
  rw [Query.accepts, hfilters, List.all_cons, List.all_nil, Bool.and_true, Filter.holds]

/-- A piece of a text stands in lower case at its place in the lower-cased text exactly if its
capital sigmas keep their form, and then the search for the piece finds the text. -/
theorem accepts_piece (before piece after : String) (hpiece : piece ≠ "") :
    (Text.lower (before ++ piece ++ after) =
        Text.lowerPart "" before (piece ++ after) ++ Text.lower piece ++
          Text.lowerPart (before ++ piece) after "" ↔
      Text.KeepsSigmas before piece after) ∧
    (Text.KeepsSigmas before piece after → ∀ (field : TextField) (row : SpendRecord),
      field.read row = before ++ piece ++ after →
        (field.searchFor piece).query.accepts row = true) := by
  constructor
  · rw [Text.lower_append, String.append_left_inj, String.append_right_inj,
      Text.lowerPart_eq_lower_iff]
  · intro hkeeps field row hread
    rw [accepts_searchFor hpiece, hread, Text.lower_append,
      Text.lowerPart_eq_lower_iff.mpr hkeeps, matchesPattern_patternOf]

/-- The sigma of a street ends a word before the number of the house, in the notes and in the piece
that is searched for. -/
theorem accepts_houseNumber :
    let row : SpendRecord := ⟨1, 2025, 1, 2, "Post", ⟨500, 2⟩, 0, "ΟΔΟΣ 5, 10% off"⟩
    "ΔΟΣ 5, 10%" ≠ "" ∧ Text.KeepsSigmas "Ο" "ΔΟΣ 5, 10%" " off" ∧
      row.notes = "Ο" ++ "ΔΟΣ 5, 10%" ++ " off" ∧
      (TextField.notes.searchFor "ΔΟΣ 5, 10%").query.accepts row = true := by
  intro row
  have hkeeps : Text.KeepsSigmas "Ο" "ΔΟΣ 5, 10%" " off" := by decide +kernel
  exact ⟨by decide, hkeeps, rfl,
    (accepts_piece "Ο" "ΔΟΣ 5, 10%" " off" (by decide)).2 hkeeps .notes row rfl⟩

/-- The start of a word in capitals is not found in the word: its last letter is a final sigma in
the piece and another one in the word. -/
theorem not_accepts_startOfWord :
    let row : SpendRecord := ⟨1, 2025, 1, 2, "ΜΟΥΣΑΚΑΣ", ⟨1200, 2⟩, 0, "ΜΟΥΣΑΚΑΣ"⟩
    row.title = "" ++ "ΜΟΥΣ" ++ "ΑΚΑΣ" ∧ row.notes = "" ++ "ΜΟΥΣ" ++ "ΑΚΑΣ" ∧
      (TextField.title.searchFor "ΜΟΥΣ").query.accepts row = false ∧
      (TextField.notes.searchFor "ΜΟΥΣ").query.accepts row = false := by
  decide +kernel

end Allowance.Search
