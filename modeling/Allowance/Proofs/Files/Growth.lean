import Mathlib.Data.List.Induction
import Allowance.Proofs.Files.Tree

/-!
# What writing a file adds

A file is written with the folders on the way to it. All other places keep their entries, so a path
that led to something before still leads to it.
-/

namespace Allowance

namespace Path

/-- A path without steps to the parent, which the system takes. -/
def IsPlain (path : Path) : Prop :=
  ".." ∉ path.steps ∧ path.holdsNul = false

instance (path : Path) : Decidable path.IsPlain :=
  inferInstanceAs (Decidable (_ ∧ _))

end Path

namespace Files

open Outcome Allowance.Path

variable {files final : Files} {path : Path} {place other : Place} {entry : Entry}
  {content : Content}

/-! ## Where plain paths lead -/

/-- The place of what is asked for by a plain path. -/
def goal (files : Files) (path : Path) : Place :=
  files.origin path ++ path.steps

theorem goal_congr (h : final.start = files.start) (path : Path) :
    final.goal path = files.goal path := by
  rw [goal, goal, origin, origin, h]

theorem goal_parent_above (files : Files) (path : Path) :
    files.goal path.parent <+: files.goal path :=
  (List.prefix_append_right_inj _).mpr (List.dropLast_prefix path.steps)

theorem walk_of_ne {step : String} (h : step ≠ "..") : walk place step = place ++ [step] :=
  if_neg h

theorem follow_eq_ok_of_plain {steps : List String} (hsteps : ".." ∉ steps)
    (h : files.follow path place steps = .ok other) : other = place ++ steps := by
  induction steps generalizing place with
  | nil =>
      cases h
      exact (List.append_nil _).symm
  | cons step rest ih =>
      rw [List.mem_cons, not_or] at hsteps
      rw [follow, walk_of_ne (Ne.symm hsteps.1)] at h
      split at h
      · cases h
      · split at h
        next hlast =>
          cases h
          rw [List.isEmpty_iff.mp hlast]
        next =>
          split at h
          next => rw [ih hsteps.2 h, List.append_assoc, List.singleton_append]
          next => cases h
          next => cases h

/-- A plain path leads to its goal if it leads anywhere. -/
theorem eq_goal_of_place (hplain : path.IsPlain) (h : files.place path = .ok place) :
    place = files.goal path := by
  unfold Files.place at h
  split at h
  next => cases h
  next => exact follow_eq_ok_of_plain hplain.1 h

/-! ## Entries in folders -/

/-- Every entry is in a folder. -/
def IsTree (files : Files) : Prop :=
  ∀ place, files.entry? place ≠ none → files.entry? place.dropLast = some .folder

theorem isTree_of_entries (h : ∀ row ∈ files.entries, files.entry? row.1.dropLast = some .folder) :
    files.IsTree := by
  intro place hentry
  by_cases hprefix : place <+: files.start
  · exact entry?_of_above ((List.dropLast_prefix place).trans hprefix)
  · have hlookup : files.entries.lookup place ≠ none := by
      rwa [entry?_of_not_above hprefix] at hentry
    obtain ⟨entry, hfound⟩ := Option.ne_none_iff_exists'.mp hlookup
    obtain ⟨before, after, heq, _⟩ := List.lookup_eq_some_iff.mp hfound
    exact h (place, entry) (heq ▸ List.mem_append_right _ List.mem_cons_self)

/-- In a tree everything above an entry is a folder. -/
theorem IsTree.entry?_of_above (h : files.IsTree) {rest : List String} (hrest : rest ≠ [])
    (hentry : files.entry? (place ++ rest) ≠ none) : files.entry? place = some .folder := by
  induction rest using List.reverseRecOn with
  | nil => exact absurd rfl hrest
  | append_singleton rest step ih =>
      have hparent := h _ hentry
      rw [← List.append_assoc, List.dropLast_concat] at hparent
      by_cases hnil : rest = []
      · rwa [hnil, List.append_nil] at hparent
      · exact ih hnil (by simp [hparent])

theorem IsTree.follow_cases (h : files.IsTree) {steps : List String} (hsteps : ".." ∉ steps)
    (hentry : files.entry? (place ++ steps) ≠ none) :
    files.follow path place steps = .ok (place ++ steps) ∨
      files.follow path place steps = .error (.nameTooLong path.text) := by
  induction steps generalizing place with
  | nil => exact .inl (by rw [follow, List.append_nil])
  | cons step rest ih =>
      rw [List.mem_cons, not_or] at hsteps
      rw [follow, walk_of_ne (Ne.symm hsteps.1)]
      split
      · exact .inr rfl
      · split
        next hlast =>
          rw [List.isEmpty_iff.mp hlast]
          exact .inl rfl
        next hrest =>
          have hcons : place ++ step :: rest = place ++ [step] ++ rest :=
            List.append_cons place step rest
          rw [hcons] at hentry ⊢
          rw [h.entry?_of_above (by simpa using hrest) hentry]
          exact ih hsteps.2 hentry

/-- What is in the goal of a plain path is found there, unless a name or the path is too long. -/
theorem IsTree.look_cases (h : files.IsTree) (hplain : path.IsPlain)
    (hentry : files.entry? (files.goal path) = some entry) :
    files.look path = .ok entry ∨ files.look path = .error (.nameTooLong path.text) := by
  have hplace : files.place path = .ok (files.goal path) ∨
      files.place path = .error (.nameTooLong path.text) := by
    unfold Files.place
    split
    · exact .inr rfl
    · have hgoal : files.entry? (files.goal path) ≠ none := by simp [hentry]
      exact h.follow_cases hplain.1 hgoal
  refine hplace.imp (fun hok => look_eq_ok.mpr ⟨_, hok, hentry⟩) fun herror => ?_
  rw [look, herror]
  rfl

/-- In a tree a plain path that leads to nothing has nothing in its goal. -/
theorem IsTree.entry?_goal_of_hasEntry (h : files.IsTree) (hplain : path.IsPlain)
    (hnone : files.hasEntry path = .ok false) : files.entry? (files.goal path) = none := by
  cases hentry : files.entry? (files.goal path) with
  | none => rfl
  | some entry =>
      rw [hasEntry, hplain.2] at hnone
      rcases h.look_cases hplain hentry with hlook | hlook <;> rw [hlook] at hnone <;> cases hnone

theorem IsTree.entry?_goal_of_missing (h : files.IsTree) (hplain : path.IsPlain) {text : String}
    (hmissing : files.read path = .error (.missing text)) :
    files.entry? (files.goal path) = none := by
  cases hentry : files.entry? (files.goal path) with
  | none => rfl
  | some entry =>
      rw [read] at hmissing
      rcases h.look_cases hplain hentry with hlook | hlook <;> rw [hlook] at hmissing
      · cases entry <;> cases hmissing
      · cases hmissing

/-! ## Folders stay -/

/-- Whatever is a folder in one tree is a folder in another. -/
structure KeepsFolders (files final : Files) : Prop where
  start_eq : final.start = files.start
  folder : ∀ place, files.entry? place = some .folder → final.entry? place = some .folder

theorem KeepsFolders.follow (h : files.KeepsFolders final) {steps : List String}
    (hfollow : files.follow path place steps = .ok other) :
    final.follow path place steps = .ok other := by
  induction steps generalizing place with
  | nil => exact hfollow
  | cons step rest ih =>
      rw [Files.follow] at hfollow ⊢
      split at hfollow
      · cases hfollow
      · next hlength =>
        rw [if_neg hlength]
        split at hfollow
        next hlast => rw [if_pos hlast, hfollow]
        next hlast =>
          rw [if_neg hlast]
          split at hfollow
          next hfolder =>
            rw [h.folder _ hfolder]
            exact ih hfollow
          next => cases hfollow
          next => cases hfollow

theorem KeepsFolders.place_eq_ok (h : files.KeepsFolders final)
    (hplace : files.place path = .ok place) : final.place path = .ok place := by
  unfold Files.place origin at hplace ⊢
  rw [h.start_eq]
  split at hplace
  next => cases hplace
  next hlength =>
    rw [if_neg hlength]
    exact h.follow hplace

/-! ## Growth -/

/-- A tree has grown by folders at or above a place. -/
structure GrowsTo (files final : Files) (place : Place) : Prop where
  start_eq : final.start = files.start
  others : ∀ other, final.entry? other = files.entry? other ∨
    files.entry? other = none ∧ final.entry? other = some .folder ∧ other <+: place

theorem GrowsTo.refl (files : Files) (place : Place) : files.GrowsTo files place :=
  ⟨rfl, fun _ => .inl rfl⟩

theorem GrowsTo.above (h : files.GrowsTo final place) (hplace : place <+: other) :
    files.GrowsTo final other where
  start_eq := h.start_eq
  others at_ := (h.others at_).imp_right fun ⟨hnone, hfolder, hprefix⟩ =>
    ⟨hnone, hfolder, hprefix.trans hplace⟩

theorem GrowsTo.trans {middle : Files} (hfirst : files.GrowsTo middle place)
    (hsecond : middle.GrowsTo final place) : files.GrowsTo final place := by
  refine ⟨hsecond.start_eq.trans hfirst.start_eq, fun other => ?_⟩
  rcases hsecond.others other with hsame | ⟨hnone, hfolder, hprefix⟩
  · rw [hsame]
    exact hfirst.others other
  · rcases hfirst.others other with hsame | ⟨_, hmiddle, _⟩
    · exact .inr ⟨hsame ▸ hnone, hfolder, hprefix⟩
    · rw [hmiddle] at hnone
      cases hnone

theorem GrowsTo.keepsFolders (h : files.GrowsTo final place) : files.KeepsFolders final := by
  refine ⟨h.start_eq, fun other hfolder => ?_⟩
  rcases h.others other with hsame | ⟨hnone, _⟩
  · rw [hsame, hfolder]
  · rw [hfolder] at hnone
    cases hnone

theorem not_above_of_ne_folder (h : files.entry? place ≠ some .folder) : ¬ place <+: files.start :=
  fun hprefix => h (entry?_of_above hprefix)

theorem growsTo_put_folder (hnone : files.entry? place = none) :
    files.GrowsTo (files.put place .folder) place := by
  refine ⟨start_put, fun other => ?_⟩
  by_cases heq : other = place
  · subst heq
    have hfree : files.entry? other ≠ some .folder := by simp [hnone]
    exact .inr ⟨hnone, entry?_put_self (not_above_of_ne_folder hfree), List.prefix_rfl⟩
  · exact .inl (entry?_put_of_ne heq)

theorem addFolder_eq_ok : files.addFolder path = .ok final ↔
    ∃ place, files.place path = .ok place ∧ files.entry? place = none ∧
      final = files.put place .folder := by
  unfold addFolder
  rw [bind_eq_ok]
  refine exists_congr fun place => and_congr_right fun _ => ?_
  cases files.entry? place with
  | none => simp [pure, Except.pure, eq_comm]
  | some found => simp [throw, throwThe, MonadExceptOf.throw]

theorem growsTo_addFolder (hplain : path.IsPlain) (h : files.addFolder path = .ok final) :
    files.GrowsTo final (files.goal path) := by
  obtain ⟨place, hplace, hnone, rfl⟩ := addFolder_eq_ok.mp h
  rw [← eq_goal_of_place hplain hplace]
  exact growsTo_put_folder hnone

theorem isPlain_parent (hplain : path.IsPlain) : path.parent.IsPlain := by
  refine ⟨fun hmem => hplain.1 (List.dropLast_subset _ hmem), ?_⟩
  have hnul := hplain.2
  rw [holdsNul, List.any_eq_false] at hnul ⊢
  exact fun step hstep => hnul step (List.dropLast_subset _ hstep)

/-- Folders are added on the way to a place only, also where that fails in the end. -/
theorem growsTo_addFolders (files : Files) (hplain : path.IsPlain) :
    files.GrowsTo (files.addFolders path).1 (files.goal path) := by
  fun_induction addFolders files path with
  | case1 path final hadded => exact growsTo_addFolder hplain hadded
  | case2 | case6 => exact .refl _ _
  | case3 path text hmissing hsteps middle fault hfolders ih =>
      have hparent := (ih (isPlain_parent hplain)).above (goal_parent_above files path)
      rwa [hfolders] at hparent
  | case4 path text hmissing hsteps middle hfolders final hadded ih =>
      have hparent := (ih (isPlain_parent hplain)).above (goal_parent_above files path)
      rw [hfolders] at hparent
      have hlast := growsTo_addFolder hplain hadded
      rw [goal_congr hparent.start_eq] at hlast
      exact hparent.trans hlast
  | case5 path text hmissing hsteps middle hfolders fault hfails ih =>
      have hparent := (ih (isPlain_parent hplain)).above (goal_parent_above files path)
      rwa [hfolders] at hparent

/-! ## A new file -/

/-- A tree has gained a file where there was no folder, with the folders on the way to it. -/
structure Gains (files final : Files) (path : Path) (content : Content) : Prop where
  start_eq : final.start = files.start
  place_eq : final.place path = .ok (files.goal path)
  entry_eq : final.entry? (files.goal path) = some (.file content)
  ne_folder : files.entry? (files.goal path) ≠ some .folder
  others : ∀ other, other ≠ files.goal path → final.entry? other = files.entry? other ∨
    files.entry? other = none ∧ final.entry? other = some .folder ∧ other <+: files.goal path

theorem keepsFolders_put_file (hfree : files.entry? place ≠ some .folder) :
    files.KeepsFolders (files.put place (.file content)) := by
  refine ⟨start_put, fun other hfolder => ?_⟩
  have hne : other ≠ place := by
    rintro rfl
    exact hfree hfolder
  rw [entry?_put_of_ne hne, hfolder]

theorem gains_of_write {middle : Files} (hplain : path.IsPlain)
    (hgrows : files.GrowsTo middle (files.goal path.parent))
    (hwrite : middle.write path content = .ok final) : files.Gains final path content := by
  obtain ⟨place, hplace, hfree, rfl⟩ := write_eq_ok.mp hwrite
  obtain rfl : place = files.goal path :=
    (eq_goal_of_place hplain hplace).trans (goal_congr hgrows.start_eq path)
  refine ⟨hgrows.start_eq, (keepsFolders_put_file hfree).place_eq_ok hplace,
    entry?_put_self (not_above_of_ne_folder hfree),
    fun hfolder => hfree (hgrows.keepsFolders.folder _ hfolder), fun other hne => ?_⟩
  rw [entry?_put_of_ne hne]
  exact (hgrows.above (goal_parent_above files path)).others other

theorem gains_of_addText {text : String} (hplain : path.IsPlain)
    (h : files.addText path text = (final, .ok ())) : files.Gains final path (.text text) := by
  have hgrows := growsTo_addFolders files (isPlain_parent hplain)
  unfold addText at h
  split at h
  next => cases h
  next middle hfolders =>
    rw [hfolders] at hgrows
    unfold attempt at h
    split at h
    next changed hwrite =>
      cases h
      exact gains_of_write hplain hgrows hwrite
    next => cases h

namespace Gains

theorem keepsFolders (h : files.Gains final path content) : files.KeepsFolders final := by
  refine ⟨h.start_eq, fun other hfolder => ?_⟩
  have hne : other ≠ files.goal path := by
    rintro rfl
    exact h.ne_folder hfolder
  rcases h.others other hne with hsame | ⟨hnone, _⟩
  · rw [hsame, hfolder]
  · rw [hfolder] at hnone
    cases hnone

theorem read_eq (h : files.Gains final path content) : final.read path = .ok content := by
  rw [read, look_eq_ok.mpr ⟨_, h.place_eq, h.entry_eq⟩]
  rfl

/-- Entries in other places are still found. -/
theorem look_eq_ok_of_ne (h : files.Gains final path content) {other : Path}
    (hplain : other.IsPlain) (hne : files.goal other ≠ files.goal path)
    (hlook : files.look other = .ok entry) : final.look other = .ok entry := by
  obtain ⟨place, hplace, hentry⟩ := look_eq_ok.mp hlook
  have hgoal := eq_goal_of_place hplain hplace
  refine look_eq_ok.mpr ⟨place, h.keepsFolders.place_eq_ok hplace, ?_⟩
  rcases h.others place (hgoal ▸ hne) with hsame | ⟨hnone, _⟩
  · rw [hsame, hentry]
  · rw [hentry] at hnone
    cases hnone

/-- A place away from the file and from the folders on the way to it is as it was. -/
theorem entry?_eq_of_not_above (h : files.Gains final path content)
    (hother : ¬ other <+: files.goal path) : final.entry? other = files.entry? other := by
  have hne : other ≠ files.goal path := by
    rintro rfl
    exact hother List.prefix_rfl
  rcases h.others other hne with hsame | ⟨_, _, hprefix⟩
  · exact hsame
  · exact absurd hprefix hother

/-- A database is still there after another file has been written. -/
theorem holds {database : Path} {at_ : Place} {l : Ledger} (h : files.Gains final path content)
    (hholds : files.Holds database at_ l) (hne : at_ ≠ files.goal path) :
    final.Holds database at_ l := by
  refine ⟨hholds.ne_memory, fullLength_congr h.start_eq database ▸ hholds.length_le,
    h.keepsFolders.place_eq_ok hholds.place_eq, ?_⟩
  rcases h.others at_ hne with hsame | ⟨hnone, _⟩
  · rw [hsame, hholds.entry_eq]
  · rw [hholds.entry_eq] at hnone
    cases hnone

end Gains

/-! ## A new database -/

theorem start_of_remove (h : files.remove path = .ok final) : final.start = files.start := by
  obtain ⟨entry, _, hremoved⟩ := bind_eq_ok.mp h
  cases entry with
  | folder => cases hremoved
  | file content =>
      obtain ⟨place, _, hfinal⟩ := bind_eq_ok.mp hremoved
      cases hfinal
      rfl

/-- Nothing is left where a file has been removed. -/
theorem entry?_goal_of_remove (hplain : path.IsPlain) (h : files.remove path = .ok final) :
    final.entry? (files.goal path) = none := by
  obtain ⟨entry, hlook, hremoved⟩ := bind_eq_ok.mp h
  obtain ⟨place, hplace, hentry⟩ := look_eq_ok.mp hlook
  cases entry with
  | folder => cases hremoved
  | file content =>
      obtain ⟨again, hagain, hfinal⟩ := bind_eq_ok.mp hremoved
      cases hfinal
      obtain rfl := eq_goal_of_place hplain hagain
      obtain rfl := eq_goal_of_place hplain hplace
      have hfree : files.entry? (files.goal path) ≠ some .folder := by simp [hentry]
      unfold entry?
      rw [if_neg (mt List.isPrefixOf_iff_prefix.mp (not_above_of_ne_folder hfree)),
        List.lookup_eq_none_iff]
      intro row hrow
      rw [bne_comm]
      exact (List.mem_filter.mp hrow).2

theorem of_ledger?_eq_none (hmemory : path ≠ memory) (h : files.ledger? path = .ok none) :
    files.fullLength path ≤ databaseLengthLimit ∧
      ∃ place, files.place path = .ok place ∧ files.entry? place ≠ some .folder := by
  unfold ledger? at h
  rw [if_neg hmemory] at h
  split at h
  next => cases h
  next hlength =>
    refine ⟨Nat.le_of_not_lt hlength, ?_⟩
    split at h
    next => cases h
    next place hplace =>
      refine ⟨place, hplace, fun hfolder => ?_⟩
      rw [hfolder] at h
      cases h

/-- A database that is prepared where nothing was is new. -/
theorem gains_of_prepare {currency : Currency} (hplain : path.IsPlain)
    (hmemory : path ≠ memory) (hnone : files.entry? (files.goal path) = none)
    (h : files.prepare path currency = (final, .ok ())) :
    files.Gains final path (.ledger (Ledger.empty currency)) ∧
      final.Holds path (files.goal path) (Ledger.empty currency) := by
  have hgrows := growsTo_addFolders files (isPlain_parent hplain)
  unfold prepare at h
  rw [hplain.2, if_neg (by simp)] at h
  split at h
  next => cases h
  next middle hfolders =>
    rw [hfolders] at hgrows
    -- What the database is looked up in has nothing in its place either, or a folder.
    have hmiddle : middle.entry? (files.goal path) = none ∨
        middle.entry? (files.goal path) = some .folder :=
      (hgrows.others _).imp (fun hsame => hsame.trans hnone) fun hfolder => hfolder.2.1
    split at h
    next => cases h
    next found hledger =>
      obtain ⟨place, hholds⟩ := ledger?_eq_some.mp hledger
      have hplace : place = files.goal path :=
        (eq_goal_of_place hplain hholds.place_eq).trans (goal_congr hgrows.start_eq path)
      rw [← hplace, hholds.entry_eq] at hmiddle
      rcases hmiddle with hfile | hfile <;> cases hfile
    next hledger =>
      split at h
      next hjournal =>
        obtain ⟨hlength, place, hplace, hfree⟩ := of_ledger?_eq_none hmemory hledger
        have hwrite : middle.write path (.ledger (Ledger.empty currency)) =
            .ok (middle.put place (.file (.ledger (Ledger.empty currency)))) :=
          write_eq_ok.mpr ⟨place, hplace, hfree, rfl⟩
        rw [store, if_neg hmemory, hwrite] at h
        cases h
        have hgains := gains_of_write hplain hgrows hwrite
        exact ⟨hgains, hmemory, hlength, hgains.place_eq, hgains.entry_eq⟩
      next => cases h

end Files

end Allowance
