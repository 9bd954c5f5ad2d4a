import Allowance.Proofs.Search.Piece
import Allowance.Proofs.Text.Case

/-!
# Exact searches

An exact search goes through the same patterns as any other, and in them a percent sign stands for
any run of characters. So it finds other texts than the searched one exactly if the searched text
has a percent sign.
-/

namespace Allowance.Search

theorem exists_append_percent {text : String} (h : wildcard ∈ text.toList) :
    ∃ left right, text = left ++ "%" ++ right := by
  obtain ⟨left, right, hsplit⟩ := List.append_of_mem h
  refine ⟨String.ofList left, String.ofList right, ?_⟩
  rw [← String.toList_inj, hsplit]
  simp [wildcard]

/-- A text in lower case has a percent sign only where the text itself has one. -/
theorem wildcard_mem_lower {text : String} :
    wildcard ∈ (Text.lower text).toList ↔ wildcard ∈ text.toList := by
  constructor
  · intro h
    rcases Text.mem_lower h with hmem | hlowered
    · exact hmem
    · exact absurd hlowered.1 (by decide)
  · intro h
    obtain ⟨left, right, rfl⟩ := exists_append_percent h
    rw [Text.lower_append_percent]
    simp [wildcard]

/-- The exact search for a text in one field, without any other condition. -/
def TextField.searchExactlyFor (text : String) : TextField → Criteria
  | title => { Criteria.all with title := text, titleExactly := true }
  | notes => { Criteria.all with notes := text, notesExactly := true }

theorem accepts_searchExactlyFor {text : String} (htext : text ≠ "") (field : TextField)
    (row : SpendRecord) : (field.searchExactlyFor text).query.accepts row = true ↔
      Expands (Text.lower text).toList (Text.lower (field.read row)).toList := by
  have hfilters :
      (field.searchExactlyFor text).query.filters = [.like field (Text.lower text)] := by
    cases field <;>
      simp [TextField.searchExactlyFor, Criteria.query, Criteria.all, textFilter, dateFilter,
        costFilter, typeFilter, patternOf, htext]
  rw [Query.accepts, hfilters, List.all_cons, List.all_nil, Bool.and_true, Filter.holds,
    matchesPattern_iff]

/-- A text with a second percent sign beside one of its own is accepted as well, though it is
another text. -/
theorem exists_accepted_of_wildcard {text : String} (hwildcard : wildcard ∈ text.toList)
    (field : TextField) : ∃ row, (field.searchExactlyFor text).query.accepts row = true ∧
      Text.lower (field.read row) ≠ Text.lower text := by
  have hne : text ≠ "" := by
    rintro rfl
    cases hwildcard
  obtain ⟨left, right, rfl⟩ := exists_append_percent hwildcard
  let doubled := left ++ "%" ++ "" ++ "%" ++ right
  have hlower : Text.lower doubled = Text.lower left ++ "%" ++ "" ++ "%" ++ Text.lower right := by
    rw [Text.lower_append_percent, Text.lower_append_percent]
    rfl
  let row : SpendRecord := ⟨1, 2025, 1, 2, doubled, ⟨500, 2⟩, SpendType.noType, doubled⟩
  have hread : field.read row = doubled := by
    cases field <;> rfl
  refine ⟨row, ?_, ?_⟩
  · rw [accepts_searchExactlyFor hne, hread, hlower, Text.lower_append_percent]
    have hright := Expands.run [wildcard, wildcard] (.refl (Text.lower right).toList)
    simpa [wildcard] using
      expands_append.mpr ⟨_, _, rfl, .refl (Text.lower left).toList, hright⟩
  · rw [hread, hlower, Text.lower_append_percent]
    intro heq
    have hlength := congrArg String.length heq
    have hpercent : "%".length = 1 := rfl
    simp only [String.length_append, hpercent] at hlength
    omega

/-- An exact search accepts the spends whose text in lower case arises from the searched text in
lower case by putting some run of characters in the place of each percent sign. So it accepts
exactly the spends whose text is the searched one, up to case, if this has no percent sign; and with
a percent sign it also accepts others. -/
theorem accepts_exactly {text : String} (htext : text ≠ "") (field : TextField) :
    (∀ row, (field.searchExactlyFor text).query.accepts row = true ↔
      Expands (Text.lower text).toList (Text.lower (field.read row)).toList) ∧
    ((∀ row, (field.searchExactlyFor text).query.accepts row = true ↔
        Text.lower (field.read row) = Text.lower text) ↔ wildcard ∉ text.toList) := by
  refine ⟨accepts_searchExactlyFor htext field, ?_, ?_⟩
  · intro hexact hwildcard
    obtain ⟨row, haccepted, hne⟩ := exists_accepted_of_wildcard hwildcard field
    exact hne ((hexact row).mp haccepted)
  · intro hplain row
    rw [accepts_searchExactlyFor htext, expands_iff_eq (mt wildcard_mem_lower.mp hplain),
      String.toList_inj]

/-- An underscore has no meaning in an exact search; the percent sign makes the search for a whole
text accept a title that only starts alike. -/
theorem accepts_exactly_snakeCase :
    let row : SpendRecord := ⟨1, 2025, 1, 2, "Flat_Rent", ⟨50000, 2⟩, 0, "100% in cash"⟩
    "FLAT_rent" ≠ "" ∧ wildcard ∉ "FLAT_rent".toList ∧
      (TextField.title.searchExactlyFor "FLAT_rent").query.accepts row = true ∧
      "100%" ≠ "" ∧ (TextField.notes.searchExactlyFor "100%").query.accepts row = true := by
  intro row
  have hplain : wildcard ∉ "FLAT_rent".toList := by decide
  have hlower : Text.lower row.title = Text.lower "FLAT_rent" := by decide +kernel
  have hexpands : Expands (Text.lower "100%").toList (Text.lower row.notes).toList := by
    rw [← matchesPattern_iff]
    decide +kernel
  exact ⟨by decide, hplain,
    (((accepts_exactly (by decide) .title).2.mpr hplain) row).mpr hlower, by decide,
    ((accepts_exactly (by decide) .notes).1 row).mpr hexpands⟩

/-- The exact search for a text that ends with a percent sign accepts titles and notes that go on in
any way. -/
theorem not_exact_percentSign :
    let row : SpendRecord := ⟨1, 2025, 1, 2, "1000 stamps", ⟨1200, 2⟩, 0, "1000 stamps"⟩
    "100%" ≠ "" ∧ Text.lower row.title ≠ Text.lower "100%" ∧
      Text.lower row.notes ≠ Text.lower "100%" ∧
      (TextField.title.searchExactlyFor "100%").query.accepts row = true ∧
      (TextField.notes.searchExactlyFor "100%").query.accepts row = true := by
  decide +kernel

end Allowance.Search
