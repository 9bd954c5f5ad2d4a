import Mathlib.Data.List.TakeWhile
import Allowance.Proofs.Search.Pattern
import Allowance.Search.Select

/-!
# What a pattern of the database matches

A text fits the elements of a pattern if it can be cut up so that each element takes its share. The
matcher gives up as soon as it finds that nothing after a run can fit; no match is lost by that. On
texts without capital ASCII letters, an escaped pattern fits exactly the texts that arise from the
pattern itself.
-/

namespace Allowance.Search

/-- A text can be cut up so that each element of a pattern takes its share: a run anything, a single
sign one character, and a literal its character in either case. -/
inductive Fits : List LikeToken → List Char → Prop where
  | nil : Fits [] []
  | anyRun {tokens : List LikeToken} {text : List Char} (skipped : List Char)
      (h : Fits tokens text) : Fits (.anyRun :: tokens) (skipped ++ text)
  | anyOne {tokens : List LikeToken} {text : List Char} (c : Char) (h : Fits tokens text) :
      Fits (.anyOne :: tokens) (c :: text)
  | literal {tokens : List LikeToken} {text : List Char} {c d : Char}
      (hcase : c.toLower = d.toLower) (h : Fits tokens text) :
      Fits (.literal c :: tokens) (d :: text)

theorem fits_anyRun {tokens : List LikeToken} {text : List Char} :
    Fits (.anyRun :: tokens) text ↔ ∃ rest, rest <:+ text ∧ Fits tokens rest := by
  constructor
  · intro h
    cases h with
    | anyRun skipped h => exact ⟨_, List.suffix_append _ _, h⟩
  · rintro ⟨rest, ⟨skipped, rfl⟩, h⟩
    exact .anyRun skipped h

/-! ## The matcher -/

/-- An outcome is right for a text: a match is found if there is one, and if the outcome is
exhaustion then no end of the text matches. -/
structure Decides (found : LikeOutcome) (matching : List Char → Prop)
    (text : List Char) : Prop where
  matched : found = .matched ↔ matching text
  exhausted : found = .exhausted → ∀ rest, rest <:+ text → ¬ matching rest

/-- Trying the ends of a text, the longest first, finds one that matches if there is any. -/
theorem firstOutcome_decides {outcome : List Char → LikeOutcome} {matching : List Char → Prop}
    (houtcome : ∀ text, Decides (outcome text) matching text) (text : List Char) :
    Decides (firstOutcome outcome text)
      (fun text => ∃ rest, rest <:+ text ∧ matching rest) text := by
  have hmatched : firstOutcome outcome text = .matched ↔ ∃ rest, rest <:+ text ∧ matching rest := by
    induction text with
    | nil =>
        simp only [firstOutcome, List.suffix_nil, exists_eq_left, ← (houtcome []).matched]
        split <;> simp_all
    | cons c text ih =>
        unfold firstOutcome
        split
        next hmismatched =>
          rw [ih]
          constructor
          · rintro ⟨rest, hrest, hmatching⟩
            exact ⟨rest, hrest.trans (List.suffix_cons c text), hmatching⟩
          · rintro ⟨rest, hrest, hmatching⟩
            rcases List.suffix_cons_iff.mp hrest with rfl | hsuffix
            · have hfound := (houtcome (c :: text)).matched.mpr hmatching
              rw [hmismatched] at hfound
              cases hfound
            · exact ⟨rest, hsuffix, hmatching⟩
        next hfound =>
          constructor
          · intro hmatched
            exact ⟨c :: text, List.suffix_rfl, (houtcome (c :: text)).matched.mp hmatched⟩
          · rintro ⟨rest, hrest, hmatching⟩
            cases hcase : outcome (c :: text) with
            | matched => rfl
            | mismatched => exact absurd hcase hfound
            -- Exhaustion already says that no later end of the text matches.
            | exhausted =>
                exact absurd hmatching ((houtcome (c :: text)).exhausted hcase rest hrest)
  refine ⟨hmatched, ?_⟩
  rintro hexhausted rest hrest ⟨inner, hinner, hmatching⟩
  have hfound := hmatched.mpr ⟨inner, hinner.trans hrest, hmatching⟩
  rw [hexhausted] at hfound
  cases hfound

/-- An element that takes one character passes on the outcome for what follows. -/
theorem Decides.cons {found : LikeOutcome} {matching longer : List Char → Prop} {c : Char}
    {text : List Char} (h : Decides found matching text) (hnil : ¬ longer [])
    (htail : ∀ d rest, longer (d :: rest) → matching rest)
    (hhere : matching text → longer (c :: text)) :
    Decides found longer (c :: text) := by
  refine ⟨h.matched.trans ⟨hhere, htail c text⟩, ?_⟩
  intro hexhausted rest hrest hlonger
  cases rest with
  | nil => exact hnil hlonger
  | cons d inner =>
      have hinner : inner <:+ text := by
        rcases List.suffix_cons_iff.mp hrest with heq | hsuffix
        · cases heq
          exact List.suffix_rfl
        · exact (List.suffix_cons d inner).trans hsuffix
      exact h.exhausted hexhausted inner hinner (htail d inner hlonger)

theorem decides_mismatched {matching : List Char → Prop} {text : List Char}
    (hnone : ¬ matching text) : Decides .mismatched matching text :=
  ⟨by simpa using hnone, by simp⟩

/-- The matcher decides whether a text fits. -/
theorem likeOutcome_decides (tokens : List LikeToken) (text : List Char) :
    Decides (likeOutcome tokens text) (Fits tokens) text := by
  induction tokens generalizing text with
  | nil =>
      cases text with
      | nil => exact ⟨by simp [likeOutcome, Fits.nil], by simp [likeOutcome]⟩
      | cons c text => exact decides_mismatched nofun
  | cons token tokens ih =>
      cases token with
      | anyRun =>
          have hfits : Fits (.anyRun :: tokens) =
              fun text => ∃ rest, rest <:+ text ∧ Fits tokens rest :=
            funext fun _ => propext fits_anyRun
          rw [likeOutcome, hfits]
          exact firstOutcome_decides ih text
      | anyOne =>
          cases text with
          | nil => exact decides_mismatched nofun
          | cons c text =>
              rw [likeOutcome]
              apply (ih text).cons nofun
              · rintro d rest ⟨⟩
                assumption
              · exact .anyOne c
      | literal c =>
          cases text with
          | nil => exact decides_mismatched nofun
          | cons d text =>
              rw [likeOutcome]
              split
              next hcase =>
                apply (ih text).cons nofun
                · rintro d rest ⟨⟩
                  assumption
                · exact .literal hcase
              next hcase =>
                apply decides_mismatched
                rintro ⟨⟩
                contradiction
      | nothing =>
          cases text with
          | nil => exact decides_mismatched nofun
          | cons c text => exact decides_mismatched nofun

/-! ## Matchers -/

/-- All characters of a text are allowed ones. -/
def CharsAre (allowed : Char → Prop) (s : String) : Prop :=
  ∀ c ∈ s.toList, allowed c

instance (allowed : Char → Prop) [DecidablePred allowed] (s : String) :
    Decidable (CharsAre allowed s) :=
  List.decidableBAll allowed s.toList

/-- No character of a text is a NUL. -/
def NulFree : String → Prop :=
  CharsAre (· ≠ '\x00')

/-- A matcher reads a pattern for a text as documented: the percent sign as any run, the underscore
as one character, and what a backslash precedes literally, without regard to the case of ASCII
letters. -/
def Matcher.Reads (fits : Matcher) (pattern text : String) : Prop :=
  fits pattern text = true ↔ Fits (likeTokens pattern.toList) text.toList

/-- A matcher reads all patterns as documented, as long as no NUL ends a text early. -/
def Matcher.IsDocumented (fits : Matcher) : Prop :=
  ∀ pattern text, NulFree pattern → NulFree text → fits.Reads pattern text

/-- The matcher of the database on texts of which it takes every character as it is. -/
def plainMatch : Matcher :=
  fun pattern text => likeOutcome (likeTokens pattern.toList) text.toList = .matched

theorem plainMatch_reads (pattern text : String) : plainMatch.Reads pattern text := by
  rw [Matcher.Reads, plainMatch, decide_eq_true_iff]
  exact (likeOutcome_decides _ _).matched

theorem plainMatch_isDocumented : plainMatch.IsDocumented :=
  fun pattern text _ _ => plainMatch_reads pattern text

/-- The database takes every character of a text as it is. -/
def IsPlain : String → Prop :=
  CharsAre fun c => c ≠ '\x00' ∧ comparedChar c = c

theorem comparedChars_eq_self {s : String} (h : IsPlain s) : comparedChars s = s.toList := by
  have hall : s.toList.takeWhile (· != '\x00') = s.toList :=
    List.takeWhile_eq_self_iff.mpr fun c hc => by simpa using (h c hc).1
  rw [comparedChars, hall]
  conv_rhs => rw [← List.map_id s.toList]
  exact List.map_congr_left fun c hc => (h c hc).2

/-- On plain texts the database reads patterns as documented. -/
theorem matchesLike_reads {pattern text : String} (hpattern : IsPlain pattern)
    (htext : IsPlain text) : Matcher.Reads matchesLike pattern text := by
  rw [Matcher.Reads, matchesLike, comparedChars_eq_self hpattern, comparedChars_eq_self htext]
  exact plainMatch_reads pattern text

/-! ## Escaped patterns -/

/-- The element for a character of a pattern in which only the percent sign has a meaning. -/
def patternToken (c : Char) : LikeToken :=
  if c = wildcard then .anyRun else .literal c

theorem likeTokens_cons {c : Char} (hescape : c ≠ '\\') (hone : c ≠ '_') (rest : List Char) :
    likeTokens (c :: rest) = patternToken c :: likeTokens rest := by
  unfold patternToken
  split
  next hrun =>
    rw [hrun]
    rfl
  next hrun =>
    rw [likeTokens]
    · exact fun h => absurd h hescape
    · exact fun _ _ h => absurd h hescape
    · exact hrun
    · exact hone

theorem likeTokens_escape (pattern : List Char) :
    likeTokens (pattern.flatMap fun c => if c = '\\' ∨ c = '_' then ['\\', c] else [c]) =
      pattern.map patternToken := by
  induction pattern with
  | nil => rfl
  | cons c rest ih =>
      rw [List.flatMap_cons, List.map_cons, ← ih]
      split
      next hescaped =>
        rcases hescaped with rfl | rfl <;> rfl
      next hplain =>
        rw [not_or] at hplain
        exact likeTokens_cons hplain.1 hplain.2 _

/-- On characters that are their own small letters, fitting a pattern is arising from it. -/
theorem fits_patternToken {pattern text : List Char} (hpattern : ∀ c ∈ pattern, c.toLower = c)
    (htext : ∀ c ∈ text, c.toLower = c) :
    Fits (pattern.map patternToken) text ↔ Expands pattern text := by
  induction pattern generalizing text with
  | nil =>
      constructor
      · rintro ⟨⟩
        exact .nil
      · rintro ⟨⟩
        exact .nil
  | cons c pattern ih =>
      obtain ⟨hc, hrest⟩ := List.forall_mem_cons.mp hpattern
      by_cases hrun : c = wildcard
      · subst hrun
        rw [List.map_cons, patternToken, if_pos rfl]
        constructor
        · intro h
          cases h with
          | anyRun skipped h =>
              rw [List.forall_mem_append] at htext
              exact .run skipped ((ih hrest htext.2).mp h)
        · intro h
          cases h with
          | run skipped h =>
              rw [List.forall_mem_append] at htext
              exact .anyRun skipped ((ih hrest htext.2).mpr h)
          | keep hc => exact absurd rfl hc
      · rw [List.map_cons, patternToken, if_neg hrun]
        constructor
        · intro h
          cases h with
          | literal hcase h =>
              obtain ⟨hd, hinner⟩ := List.forall_mem_cons.mp htext
              rw [hc, hd] at hcase
              subst hcase
              exact .keep hrun ((ih hrest hinner).mp h)
        · intro h
          cases h with
          | run => exact absurd rfl hrun
          | keep _ h =>
              obtain ⟨_, hinner⟩ := List.forall_mem_cons.mp htext
              exact .literal rfl ((ih hrest hinner).mpr h)

/-- A documented matcher gives an escaped pattern the meaning of the pattern itself. -/
theorem Matcher.Reads.eq_matchesPattern {fits : Matcher} {pattern text : String}
    (h : fits.Reads (escapePattern pattern) text) (hpattern : ∀ c ∈ pattern.toList, c.toLower = c)
    (htext : ∀ c ∈ text.toList, c.toLower = c) :
    fits (escapePattern pattern) text = matchesPattern pattern text := by
  have hfits := fits_patternToken hpattern htext
  rw [← likeTokens_escape, ← String.toList_ofList (l := List.flatMap _ _)] at hfits
  rw [Bool.eq_iff_iff, matchesPattern_iff, ← hfits]
  exact h

end Allowance.Search
