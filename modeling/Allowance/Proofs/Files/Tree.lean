import Mathlib.Logic.Basic
import Allowance.Files.Database
import Allowance.Proofs.Outcome

/-!
# What is in a place

Every operation on files changes the entries of a few places and leaves all others alone. Where a
path leads depends on nothing but where relative paths start, which places have an entry and which
of these are folders.
-/

namespace Allowance

namespace Files

open Outcome

variable {files others final : Files} {place other : Place} {path : Path} {entry : Entry}
  {content : Content}

/-- Everything on the way to where relative paths start is a folder. -/
theorem entry?_of_above (h : place <+: files.start) : files.entry? place = some .folder :=
  if_pos (List.isPrefixOf_iff_prefix.mpr h)

theorem entry?_of_not_above (h : ¬ place <+: files.start) :
    files.entry? place = files.entries.lookup place :=
  if_neg (mt List.isPrefixOf_iff_prefix.mp h)

theorem lookup_filter_of_ne (entries : List (Place × Entry)) (hne : other ≠ place) :
    (entries.filter (·.1 != place)).lookup other = entries.lookup other := by
  induction entries with
  | nil => rfl
  | cons first rest ih =>
      obtain ⟨at_, entry⟩ := first
      by_cases hat : at_ = place
      · rw [List.filter_cons_of_neg (by simp [hat]), ih, List.lookup_cons]
        have hother : (other == at_) = false := by
          simpa [hat] using hne
        rw [hother]
      · rw [List.filter_cons_of_pos (by simpa using hat), List.lookup_cons, List.lookup_cons, ih]

@[simp] theorem start_put : (files.put place entry).start = files.start :=
  rfl

theorem entry?_put_self (h : ¬ place <+: files.start) :
    entry? (files.put place entry) place = some entry := by
  rw [← start_put] at h
  rw [entry?_of_not_above h]
  exact List.lookup_cons_self

theorem entry?_put_of_ne (hne : other ≠ place) :
    entry? (files.put place entry) other = files.entry? other := by
  unfold entry? put
  split
  next => rfl
  next => rw [List.lookup_cons, beq_false_of_ne hne, lookup_filter_of_ne _ hne]

/-! ## Trees of one shape -/

/-- Two trees have the same folders, and files in the same places. -/
structure SameShape (files others : Files) : Prop where
  start_eq : files.start = others.start
  folder_iff : ∀ place, files.entry? place = some .folder ↔ others.entry? place = some .folder
  none_iff : ∀ place, files.entry? place = none ↔ others.entry? place = none

theorem SameShape.follow_eq (h : files.SameShape others) (path : Path) (place : Place)
    (steps : List String) : files.follow path place steps = others.follow path place steps := by
  induction steps generalizing place with
  | nil => rfl
  | cons step rest ih =>
      have hfolder := h.folder_iff (walk place step)
      have hnone := h.none_iff (walk place step)
      rw [follow, follow]
      split
      · rfl
      · split
        · rfl
        · cases hfirst : files.entry? (walk place step) with
          | none => rw [hnone.mp hfirst]
          | some entry =>
              cases entry with
              | folder =>
                  rw [hfolder.mp hfirst]
                  exact ih _
              | file content =>
                  cases hsecond : others.entry? (walk place step) with
                  | none => simp [hnone.mpr hsecond] at hfirst
                  | some entry =>
                      cases entry with
                      | folder => simp [hfolder.mpr hsecond] at hfirst
                      | file content => rfl

theorem SameShape.place_eq (h : files.SameShape others) (path : Path) :
    files.place path = others.place path := by
  unfold place origin
  rw [h.start_eq]
  split
  · rfl
  · exact h.follow_eq _ _ _

theorem look_eq_ok : files.look path = .ok entry ↔
    ∃ place, files.place path = .ok place ∧ files.entry? place = some entry := by
  unfold look
  rw [bind_eq_ok]
  refine exists_congr fun place => and_congr_right fun _ => ?_
  cases files.entry? place with
  | none => simp [throw, throwThe, MonadExceptOf.throw]
  | some found => simp [pure, Except.pure]

theorem read_eq_ok : files.read path = .ok content ↔ files.look path = .ok (.file content) := by
  rw [read]
  cases files.look path with
  | error fault => exact ⟨nofun, nofun⟩
  | ok entry =>
      cases entry with
      | folder => exact ⟨nofun, nofun⟩
      | file found => simp [bind, Except.bind, pure, Except.pure]

theorem hasEntry_of_look (hnul : path.holdsNul = false) (hlook : files.look path = .ok entry) :
    files.hasEntry path = .ok true := by
  rw [hasEntry, hnul, hlook]
  rfl

theorem look_of_hasEntry (h : files.hasEntry path = .ok true) :
    ∃ entry, files.look path = .ok entry := by
  unfold hasEntry at h
  split at h
  next => cases h
  next =>
    split at h
    next entry hlook => exact ⟨entry, hlook⟩
    next => cases h
    next => cases h

/-- What a path leads to depends on where it leads and on the entry there. -/
theorem look_congr (hplace : files.place path = others.place path)
    (hentry : ∀ place, others.place path = .ok place → files.entry? place = others.entry? place) :
    files.look path = others.look path := by
  rw [look, look, hplace]
  cases hfound : others.place path with
  | error fault => rfl
  | ok place => simp only [bind, Except.bind, hentry place hfound]

theorem write_eq_ok : files.write path content = .ok final ↔
    ∃ place, files.place path = .ok place ∧ files.entry? place ≠ some .folder ∧
      final = files.put place (.file content) := by
  unfold write
  rw [bind_eq_ok]
  refine exists_congr fun place => and_congr_right fun _ => ?_
  cases files.entry? place with
  | none => simp [pure, Except.pure, eq_comm]
  | some found =>
      cases found with
      | folder => simp [throw, throwThe, MonadExceptOf.throw]
      | file content => simp [pure, Except.pure, eq_comm]

/-- The same entry is in every place. -/
structure Same (files others : Files) : Prop where
  start_eq : files.start = others.start
  entry?_eq : ∀ place, files.entry? place = others.entry? place

theorem Same.refl (files : Files) : files.Same files :=
  ⟨rfl, fun _ => rfl⟩

theorem Same.sameShape (h : files.Same others) : files.SameShape others where
  start_eq := h.start_eq
  folder_iff place := by rw [h.entry?_eq place]
  none_iff place := by rw [h.entry?_eq place]

/-! ## Databases -/

/-- A path leads to a place with a ledger, as a database that can be opened. -/
structure Holds (files : Files) (path : Path) (place : Place) (l : Ledger) : Prop where
  ne_memory : path ≠ memory
  length_le : files.fullLength path ≤ databaseLengthLimit
  place_eq : files.place path = .ok place
  entry_eq : files.entry? place = some (.file (.ledger l))

theorem ledger?_eq_some {l : Ledger} :
    files.ledger? path = .ok (some l) ↔ ∃ place, files.Holds path place l := by
  constructor
  · intro h
    unfold ledger? at h
    split at h
    next => cases h
    next hmemory =>
      split at h
      next => cases h
      next hlength =>
        split at h
        next => cases h
        next place hplace =>
          split at h
          next => cases h
          next => cases h
          next found hentry =>
            cases h
            exact ⟨place, hmemory, Nat.le_of_not_lt hlength, hplace, hentry⟩
          next => split at h <;> cases h
  · rintro ⟨place, hmemory, hlength, hplace, hentry⟩
    rw [ledger?, if_neg hmemory, if_neg (Nat.not_lt.mpr hlength), hplace]
    simp only [hentry]

theorem ledger_eq_ok {l : Ledger} :
    files.ledger path = .ok l ↔ ∃ place, files.Holds path place l := by
  rw [← ledger?_eq_some, ledger, bind_eq_ok]
  constructor
  · rintro ⟨found, hfound, hend⟩
    cases found with
    | none => cases hend
    | some found =>
        cases hend
        exact hfound
  · intro h
    exact ⟨some l, h, rfl⟩

theorem fullLength_congr (h : files.start = others.start) (path : Path) :
    files.fullLength path = others.fullLength path := by
  rw [fullLength, fullLength, origin, origin, h]

theorem Same.ledger_eq (h : files.Same others) (path : Path) :
    files.ledger path = others.ledger path := by
  unfold ledger ledger?
  rw [h.sameShape.place_eq, fullLength_congr h.start_eq]
  cases others.place path with
  | error fault => rfl
  | ok place => simp only [h.entry?_eq place]

namespace Holds

variable {l : Ledger}

theorem not_above (h : files.Holds path place l) : ¬ place <+: files.start := by
  intro hprefix
  have hentry := h.entry_eq
  rw [entry?_of_above hprefix] at hentry
  cases hentry

theorem store_eq (h : files.Holds path place l) (final : Ledger) :
    files.store path final = files.put place (.file (.ledger final)) := by
  have hwrite : files.write path (.ledger final) =
      .ok (files.put place (.file (.ledger final))) :=
    write_eq_ok.mpr ⟨place, h.place_eq, by simp [h.entry_eq], rfl⟩
  rw [Files.store, if_neg h.ne_memory, hwrite]

/-- Storing a ledger leaves the entries of all other places alone. -/
theorem entry?_store_of_ne (h : files.Holds path place l) (final : Ledger) (hne : other ≠ place) :
    entry? (files.store path final) other = files.entry? other := by
  rw [h.store_eq, entry?_put_of_ne hne]

theorem entry?_store_self (h : files.Holds path place l) (final : Ledger) :
    entry? (files.store path final) place = some (.file (.ledger final)) := by
  rw [h.store_eq, entry?_put_self h.not_above]

theorem start_store (h : files.Holds path place l) (final : Ledger) :
    (files.store path final).start = files.start := by
  rw [h.store_eq, start_put]

theorem sameShape_store (h : files.Holds path place l) (final : Ledger) :
    (files.store path final).SameShape files := by
  refine ⟨h.start_store final, ?_, ?_⟩
  all_goals
    intro other
    by_cases hother : other = place
    · subst hother
      rw [h.entry?_store_self, h.entry_eq]
      simp
    · rw [h.entry?_store_of_ne final hother]

/-- A ledger that has been stored is what its path leads to. -/
theorem store (h : files.Holds path place l) (final : Ledger) :
    (files.store path final).Holds path place final :=
  ⟨h.ne_memory, fullLength_congr (h.start_store final) path ▸ h.length_le,
    ((h.sameShape_store final).place_eq path).trans h.place_eq, h.entry?_store_self final⟩

/-- Storing the ledger that is there already changes nothing. -/
theorem same_store (h : files.Holds path place l) : (files.store path l).Same files := by
  refine ⟨h.start_store l, fun other => ?_⟩
  by_cases hother : other = place
  · subst hother
    rw [h.entry?_store_self, h.entry_eq]
  · exact h.entry?_store_of_ne l hother

/-- A path that does not lead to a database leads to the same as before once it has been stored. -/
theorem look_store (h : files.Holds path place l) (final : Ledger) (other : Path) :
    (files.store path final).look other = files.look other ∨
      files.look other = .ok (.file (.ledger l)) := by
  by_cases hother : files.place other = .ok place
  · exact .inr (look_eq_ok.mpr ⟨place, hother, h.entry_eq⟩)
  · refine .inl (look_congr ((h.sameShape_store final).place_eq other) fun found hfound => ?_)
    refine h.entry?_store_of_ne final ?_
    rintro rfl
    exact hother hfound

theorem hasEntry_eq (h : files.Holds path place l) (hnul : path.holdsNul = false) :
    files.hasEntry path = .ok true := by
  have hlook : files.look path = .ok (.file (.ledger l)) :=
    look_eq_ok.mpr ⟨place, h.place_eq, h.entry_eq⟩
  rw [hasEntry, hnul, hlook]
  rfl

end Holds

end Files

end Allowance
