import Mathlib.Data.List.Basic
import Allowance.Search.Pattern

/-!
# What a search pattern matches

A pattern matches the texts that arise from it when each percent sign is replaced with some run of
characters. The search for the parts between percent signs takes the first occurrence of each part;
it leaves most of the text for the parts that follow, so no other choice could do better.
-/

namespace Allowance.Search

/-- A text arises from a pattern by replacing each percent sign with some run of characters. -/
inductive Expands : List Char → List Char → Prop where
  | nil : Expands [] []
  | run {pattern text : List Char} (skipped : List Char) (h : Expands pattern text) :
      Expands (wildcard :: pattern) (skipped ++ text)
  | keep {pattern text : List Char} {c : Char} (hc : c ≠ wildcard) (h : Expands pattern text) :
      Expands (c :: pattern) (c :: text)

/-! ## Parts in their order -/

/-- Parts occur in a text one after another, with anything between them and after the last. -/
def Occur : List (List Char) → List Char → Prop
  | [], _ => True
  | part :: parts, text => ∃ skipped rest, text = skipped ++ part ++ rest ∧ Occur parts rest

/-- Parts occur in a text one after another, with anything between them; the last one ends it. -/
def Spread : List (List Char) → List Char → Prop
  | [], text => text = []
  | part :: parts, text => ∃ skipped rest, text = skipped ++ part ++ rest ∧ Spread parts rest

theorem Occur.mono {parts : List (List Char)} {text more : List Char} (h : Occur parts text)
    (hsuffix : text <:+ more) : Occur parts more := by
  cases parts with
  | nil => trivial
  | cons part parts =>
      obtain ⟨skipped, rest, rfl, hrest⟩ := h
      obtain ⟨before, rfl⟩ := hsuffix
      exact ⟨before ++ skipped, rest, by simp, hrest⟩

theorem spread_append_singleton {parts : List (List Char)} {tail text : List Char} :
    Spread (parts ++ [tail]) text ↔ ∃ body, text = body ++ tail ∧ Occur parts body := by
  induction parts generalizing text with
  | nil => simp [Spread, Occur]
  | cons part parts ih =>
      simp only [List.cons_append, Spread, Occur, ih]
      constructor
      · rintro ⟨skipped, _, rfl, body, rfl, hbody⟩
        exact ⟨skipped ++ part ++ body, by simp, skipped, body, rfl, hbody⟩
      · rintro ⟨_, rfl, skipped, body, rfl, hbody⟩
        exact ⟨skipped, body ++ tail, by simp, body, rfl, hbody⟩

/-! ## First occurrences -/

/-- What follows the first occurrence of a part ends with what follows any other. -/
theorem afterFirst?_eq_some {part text rest : List Char}
    (hfirst : Text.afterFirst? part text = some rest) :
    (∃ skipped, text = skipped ++ part ++ rest) ∧
      ∀ skipped other, text = skipped ++ part ++ other → other <:+ rest := by
  induction text with
  | nil =>
      simp only [Text.afterFirst?, Option.ite_none_right_eq_some, List.isEmpty_iff,
        Option.some.injEq] at hfirst
      obtain ⟨rfl, rfl⟩ := hfirst
      refine ⟨⟨[], rfl⟩, ?_⟩
      intro skipped other htext
      simp only [List.append_nil, List.nil_eq, List.append_eq_nil_iff] at htext
      exact htext.2 ▸ List.suffix_rfl
  | cons c text ih =>
      unfold Text.afterFirst? at hfirst
      split at hfirst
      next hprefix =>
        obtain ⟨after, hafter⟩ := List.isPrefixOf_iff_prefix.mp hprefix
        rw [← hafter, List.drop_left, Option.some.injEq] at hfirst
        subst hfirst
        refine ⟨⟨[], by simp [hafter]⟩, ?_⟩
        intro skipped other htext
        -- Of two ends of one text the one that leaves out less is the longer one.
        apply List.suffix_of_suffix_length_le ⟨skipped ++ part, htext.symm⟩ ⟨part, hafter⟩
        have hlength := congrArg List.length (hafter.trans htext)
        simp only [List.length_append] at hlength
        omega
      next hprefix =>
        obtain ⟨⟨skipped, hskipped⟩, hlongest⟩ := ih hfirst
        refine ⟨⟨c :: skipped, by simp [hskipped]⟩, ?_⟩
        intro skipped other htext
        cases skipped with
        | nil =>
            refine absurd (List.isPrefixOf_iff_prefix.mpr ⟨other, ?_⟩) hprefix
            simpa using htext.symm
        | cons d skipped =>
            simp only [List.cons_append, List.cons.injEq] at htext
            exact hlongest skipped other htext.2

theorem afterFirst?_eq_none {part text : List Char} (hnone : Text.afterFirst? part text = none)
    (skipped rest : List Char) : text ≠ skipped ++ part ++ rest := by
  induction text generalizing skipped with
  | nil =>
      rintro htext
      simp only [List.nil_eq, List.append_eq_nil_iff] at htext
      simp [Text.afterFirst?, htext] at hnone
  | cons c text ih =>
      unfold Text.afterFirst? at hnone
      split at hnone
      next => cases hnone
      next hprefix =>
        intro htext
        cases skipped with
        | nil =>
            refine hprefix (List.isPrefixOf_iff_prefix.mpr ⟨rest, ?_⟩)
            simpa using htext.symm
        | cons d skipped =>
            simp only [List.cons_append, List.cons.injEq] at htext
            exact ih hnone skipped htext.2

/-- Taking first occurrences finds parts in their order whenever they occur so. -/
theorem occurInOrder_iff {parts : List (List Char)} {text : List Char} :
    occurInOrder parts text = true ↔ Occur parts text := by
  induction parts generalizing text with
  | nil => simp [occurInOrder, Occur]
  | cons part parts ih =>
      unfold occurInOrder
      split
      next rest hfirst =>
        obtain ⟨⟨skipped, hskipped⟩, hlongest⟩ := afterFirst?_eq_some hfirst
        rw [ih]
        constructor
        · intro hrest
          exact ⟨skipped, rest, hskipped, hrest⟩
        -- Where the others occur after any occurrence, they occur after the first one.
        · rintro ⟨before, other, htext, hother⟩
          exact hother.mono (hlongest before other htext)
      next hnone =>
        simp only [Bool.false_eq_true, false_iff]
        rintro ⟨skipped, rest, htext, _⟩
        exact afterFirst?_eq_none hnone skipped rest htext

/-! ## Patterns -/

theorem pieces_ne_nil (isSeparator : Char → Bool) (pattern : List Char) :
    Text.pieces isSeparator pattern ≠ [] := by
  cases pattern with
  | nil => simp [Text.pieces]
  | cons c rest =>
      unfold Text.pieces
      split
      · split <;> simp
      · simp

/-- A text arises from a pattern if it starts with the first piece and has the others after it. -/
theorem expands_iff_pieces {pattern text head : List Char} {others : List (List Char)}
    (hpieces : Text.pieces (· == wildcard) pattern = head :: others) :
    Expands pattern text ↔ ∃ rest, text = head ++ rest ∧ Spread others rest := by
  induction pattern generalizing text head others with
  | nil =>
      simp only [Text.pieces, List.cons.injEq] at hpieces
      obtain ⟨rfl, rfl⟩ := hpieces
      constructor
      · rintro ⟨⟩
        exact ⟨[], rfl, rfl⟩
      · rintro ⟨_, rfl, rfl⟩
        exact .nil
  | cons c pattern ih =>
      obtain ⟨piece, more, hmore⟩ := List.exists_cons_of_ne_nil
        (pieces_ne_nil (· == wildcard) pattern)
      simp only [Text.pieces, hmore] at hpieces
      by_cases hc : c = wildcard
      · subst hc
        simp only [beq_self_eq_true, if_true, List.cons.injEq] at hpieces
        obtain ⟨rfl, rfl⟩ := hpieces
        constructor
        · intro h
          cases h with
          | run skipped h =>
              obtain ⟨rest, rfl, hrest⟩ := (ih hmore).mp h
              exact ⟨_, rfl, skipped, rest, by simp, hrest⟩
          | keep hc => exact absurd rfl hc
        · rintro ⟨_, rfl, skipped, rest, rfl, hrest⟩
          have h := (ih hmore).mpr ⟨rest, rfl, hrest⟩
          simpa using Expands.run skipped h
      · simp only [beq_iff_eq, hc, if_false, List.cons.injEq] at hpieces
        obtain ⟨rfl, rfl⟩ := hpieces
        constructor
        · intro h
          cases h with
          | run => exact absurd rfl hc
          | keep _ h =>
              obtain ⟨rest, rfl, hrest⟩ := (ih hmore).mp h
              exact ⟨rest, rfl, hrest⟩
        · rintro ⟨rest, rfl, hrest⟩
          exact .keep hc ((ih hmore).mpr ⟨rest, rfl, hrest⟩)

theorem matchesParts_iff {head text : List Char} {others : List (List Char)} :
    matchesParts head others text = true ↔ ∃ rest, text = head ++ rest ∧ Spread others rest := by
  unfold matchesParts
  cases hlast : others.getLast? with
  | none =>
      obtain rfl := List.getLast?_eq_none_iff.mp hlast
      simp [Spread]
  | some tail =>
      obtain ⟨inner, rfl⟩ := List.getLast?_eq_some_iff.mp hlast
      simp only [spread_append_singleton, List.dropLast_concat, Bool.and_eq_true,
        List.isPrefixOf_iff_prefix, List.isSuffixOf_iff_suffix, occurInOrder_iff]
      constructor
      · rintro ⟨⟨⟨rest, rfl⟩, hsuffix⟩, hoccur⟩
        rw [List.drop_left] at hsuffix hoccur
        obtain ⟨body, rfl⟩ := hsuffix
        refine ⟨_, rfl, body, rfl, ?_⟩
        simpa using hoccur
      · rintro ⟨_, rfl, body, rfl, hoccur⟩
        rw [List.drop_left]
        refine ⟨⟨List.prefix_append _ _, List.suffix_append _ _⟩, ?_⟩
        simpa using hoccur

theorem Expands.refl (text : List Char) : Expands text text := by
  induction text with
  | nil => exact .nil
  | cons c rest ih =>
      by_cases hc : c = wildcard
      · subst hc
        exact .run [wildcard] ih
      · exact .keep hc ih

theorem expands_wildcard_cons {pattern text : List Char} :
    Expands (wildcard :: pattern) text ↔
      ∃ skipped rest, text = skipped ++ rest ∧ Expands pattern rest := by
  constructor
  · intro h
    cases h with
    | run skipped h => exact ⟨skipped, _, rfl, h⟩
    | keep hc => exact absurd rfl hc
  · rintro ⟨skipped, rest, rfl, h⟩
    exact .run skipped h

theorem expands_append {pattern more text : List Char} :
    Expands (pattern ++ more) text ↔
      ∃ first rest, text = first ++ rest ∧ Expands pattern first ∧ Expands more rest := by
  constructor
  · intro h
    induction pattern generalizing text with
    | nil => exact ⟨[], text, rfl, .nil, h⟩
    | cons c pattern ih =>
        cases h with
        | run skipped h =>
            obtain ⟨first, rest, rfl, hfirst, hrest⟩ := ih h
            exact ⟨skipped ++ first, rest, by simp, .run skipped hfirst, hrest⟩
        | keep hc h =>
            obtain ⟨first, rest, rfl, hfirst, hrest⟩ := ih h
            exact ⟨c :: first, rest, rfl, .keep hc hfirst, hrest⟩
  · rintro ⟨first, rest, rfl, hfirst, hrest⟩
    induction hfirst with
    | nil => exact hrest
    | run skipped _ ih => simpa using Expands.run skipped ih
    | keep hc _ ih => exact .keep hc ih

/-- Without a percent sign a pattern stands for itself alone. -/
theorem expands_iff_eq {pattern text : List Char} (hplain : wildcard ∉ pattern) :
    Expands pattern text ↔ text = pattern := by
  constructor
  · intro h
    induction h with
    | nil => rfl
    | run => exact absurd List.mem_cons_self hplain
    | keep _ _ ih => rw [ih fun hmem => hplain (List.mem_cons_of_mem _ hmem)]
  · rintro rfl
    exact .refl text

/-- Between two percent signs a pattern without any is a piece that the text contains. -/
theorem expands_between {pattern text : List Char} (hplain : wildcard ∉ pattern) :
    Expands (wildcard :: (pattern ++ [wildcard])) text ↔ pattern <:+: text := by
  simp only [expands_wildcard_cons, expands_append, expands_iff_eq hplain]
  constructor
  · rintro ⟨skipped, _, rfl, _, rest, rfl, rfl, _⟩
    exact ⟨skipped, rest, by simp⟩
  · rintro ⟨skipped, rest, rfl⟩
    exact ⟨skipped, pattern ++ rest, by simp, pattern, rest, rfl, rfl, rest, [], by simp, .nil⟩

/-- The search for parts decides whether a text arises from a pattern. -/
theorem matchesPattern_iff {pattern text : String} :
    matchesPattern pattern text = true ↔ Expands pattern.toList text.toList := by
  unfold matchesPattern
  split
  next head others hpieces => rw [matchesParts_iff, expands_iff_pieces hpieces]
  next hpieces => exact absurd hpieces (pieces_ne_nil _ _)

/-! ## Runs in place of percent signs -/

/-- What may take the place of a character of a pattern: any run of characters that of a percent
sign, and every other character keeps its own. -/
def StandsFor (c : Char) (run : List Char) : Prop :=
  c ≠ wildcard → run = [c]

theorem expands_iff_standsFor {pattern text : List Char} :
    Expands pattern text ↔
      ∃ runs, List.Forall₂ StandsFor pattern runs ∧ runs.flatten = text := by
  constructor
  · intro h
    induction h with
    | nil => exact ⟨[], .nil, rfl⟩
    | run skipped _ ih =>
        obtain ⟨runs, hruns, rfl⟩ := ih
        exact ⟨skipped :: runs, .cons (fun hne => absurd rfl hne) hruns, rfl⟩
    | @keep _ _ c _ _ ih =>
        obtain ⟨runs, hruns, rfl⟩ := ih
        exact ⟨[c] :: runs, .cons (fun _ => rfl) hruns, rfl⟩
  · rintro ⟨runs, hruns, rfl⟩
    induction hruns with
    | nil => exact .nil
    | @cons c run _ _ hrun _ ih =>
        rw [List.flatten_cons]
        by_cases hc : c = wildcard
        · rw [hc]
          exact .run run ih
        · rw [hrun hc]
          exact .keep hc ih

/-- A pattern matches exactly the texts that it becomes when each of its percent signs is replaced
with some run of characters, which may be empty. -/
theorem matchesPattern_iff_replaced (pattern text : String) :
    matchesPattern pattern text = true ↔
      ∃ runs : List (List Char), List.Forall₂ StandsFor pattern.toList runs ∧
        runs.flatten = text.toList := by
  rw [matchesPattern_iff, expands_iff_standsFor]

-- The parts at both ends of a text do not overlap.
example : matchesPattern "ab%ba" "abba" = true ∧ matchesPattern "ab%ba" "aba" = false := by decide

end Allowance.Search
