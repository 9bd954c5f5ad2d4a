import Allowance.Proofs.SpendType.Ancestors

/-!
# Cycles

The search that decides whether a spend type may move under a new parent looks at the first types of
the parent's chain only. Where the whole chain is within its bound, it answers whether the hierarchy
would get a cycle. It never allows a move without having seen the whole chain, not even in a
malformed hierarchy.
-/

namespace Allowance.SpendType

/-- The spend types from one up to its root, which is the first of them without a parent. -/
inductive IsChain (types : List SpendType) : Int → List Int → Prop where
  | root {id : Int} (hparent : parentOf? types id = some noType) : IsChain types id [id]
  | child {id parent : Int} {chain : List Int} (hparent : parentOf? types id = some parent)
      (hne : parent ≠ noType) (h : IsChain types parent chain) : IsChain types id (id :: chain)

/-- Following parents from some spend type comes back to it. -/
def IsCyclic (types : List SpendType) : Prop :=
  ∃ id steps, ascend types (steps + 1) id = some id

/-- The spend types after one of them has been moved under a parent. -/
def reparent (types : List SpendType) (subject parent : Int) : List SpendType :=
  types.map fun type => if type.id = subject then { type with parent } else type

variable {types : List SpendType} {subject id parent : Int} {chain : List Int} {length steps : Nat}

/-! ## Chains -/

theorem ne_noType_of_parentOf? (hroot : parentOf? types noType = none)
    (hparent : parentOf? types id = some parent) : id ≠ noType := by
  rintro rfl
  rw [hroot] at hparent
  cases hparent

namespace IsChain

theorem unique {other : List Int} (h : IsChain types id chain) (hother : IsChain types id other) :
    chain = other := by
  induction h generalizing other with
  | root hparent =>
      cases hother with
      | root => rfl
      | child hsame hne => exact absurd (Option.some.inj (hsame.symm.trans hparent)) hne
  | child hparent hne _ ih =>
      cases hother with
      | root hsame => exact absurd (Option.some.inj (hparent.symm.trans hsame)) hne
      | child hsame _ hrest =>
          obtain rfl := Option.some.inj (hparent.symm.trans hsame)
          rw [ih hrest]

theorem exists_parent (h : IsChain types id chain) (hsubject : subject ∈ chain) :
    ∃ parent, parentOf? types subject = some parent := by
  induction h with
  | root hparent =>
      obtain rfl := List.mem_singleton.mp hsubject
      exact ⟨_, hparent⟩
  | child hparent _ _ ih =>
      rcases List.mem_cons.mp hsubject with rfl | hrest
      · exact ⟨_, hparent⟩
      · exact ih hrest

/-- The types of a chain are those that its first one is below. -/
theorem mem_iff (hroot : parentOf? types noType = none) (h : IsChain types id chain) :
    subject ∈ chain ↔ subject ≠ noType ∧ IsBelow types id subject := by
  induction h with
  | @root id hparent =>
      rw [List.mem_singleton, @isBelow_iff types id]
      simp only [hparent, Option.some.injEq, exists_eq_left', isBelow_of_parentOf?_eq_none hroot]
      constructor
      · rintro rfl
        exact ⟨ne_noType_of_parentOf? hroot hparent, .inl rfl⟩
      · rintro ⟨hne, rfl | rfl⟩
        · rfl
        · exact absurd rfl hne
  | @child id parent chain hparent _ _ ih =>
      rw [List.mem_cons, ih, @isBelow_iff types id]
      simp only [hparent, Option.some.injEq, exists_eq_left']
      constructor
      · rintro (rfl | ⟨hne, hbelow⟩)
        · exact ⟨ne_noType_of_parentOf? hroot hparent, .inl rfl⟩
        · exact ⟨hne, .inr hbelow⟩
      · rintro ⟨hne, rfl | hbelow⟩
        · exact .inl rfl
        · exact .inr ⟨hne, hbelow⟩

end IsChain

/-- A walk that is long enough lists the chain. -/
theorem HasChain.isChain_walk (hroot : parentOf? types noType = none)
    (h : HasChain types id (length + 1)) : IsChain types id (walk types (length + 1) id) := by
  induction length generalizing id with
  | zero =>
      obtain ⟨parent, hparent, -, hrest, hwalk⟩ := h.walk_succ hroot 0
      obtain rfl : parent = noType := Option.some.inj hrest
      rw [hwalk]
      exact .root hparent
  | succ length ih =>
      obtain ⟨parent, hparent, -, hrest, hwalk⟩ := h.walk_succ hroot (length + 1)
      have hne : parent ≠ noType := by
        rintro rfl
        have := hrest.unique hroot hasChain_noType
        omega
      rw [hwalk]
      exact .child hparent hne (ih hrest)

theorem Rooted.exists_isChain (hroot : parentOf? types noType = none) (h : Rooted types id)
    (hid : id ≠ noType) : ∃ chain, IsChain types id chain := by
  obtain ⟨length, hlength⟩ := h.ascend_eq
  cases length with
  | zero => exact absurd (Option.some.inj hlength) hid
  | succ length => exact ⟨_, HasChain.isChain_walk hroot hlength⟩

/-! ## Searches -/

/-- A search along a chain finds the subject among the first types, sees the whole chain without it,
or is cut off. -/
theorem IsChain.meets_eq (h : IsChain types id chain) (steps : Nat) :
    meets types subject steps id =
      if subject ∈ chain.take steps then .ok true
      else if chain.length ≤ steps then .ok false
      else .error (.hierarchy .tooDeep) := by
  induction h generalizing steps with
  | @root id hparent =>
      cases steps with
      | zero => rfl
      | succ steps =>
          rw [meets, hparent]
          by_cases hid : id = subject
          · simp [hid]
          · simp [hid, Ne.symm hid]
  | @child id parent chain hparent hne _ ih =>
      cases steps with
      | zero => rfl
      | succ steps =>
          rw [meets, hparent]
          by_cases hid : id = subject
          · simp [hid]
          · simp [hid, Ne.symm hid, hne, ih]

/-- Only a whole chain lets a search end without the subject. -/
theorem exists_isChain_of_meets (h : meets types subject steps id = .ok false) :
    ∃ chain, IsChain types id chain ∧ chain.length ≤ steps ∧ subject ∉ chain := by
  induction steps generalizing id with
  | zero => cases h
  | succ steps ih =>
      unfold meets at h
      split at h
      next => cases h
      next parent hparent =>
        split at h
        next => cases h
        next hid =>
          split at h
          next hroot =>
            subst hroot
            exact ⟨[id], .root hparent, by simp, by simpa using Ne.symm hid⟩
          next hne =>
            obtain ⟨chain, hchain, hlength, hsubject⟩ := ih h
            exact ⟨id :: chain, .child hparent hne hchain, Nat.succ_le_succ hlength,
              List.not_mem_cons_of_ne_of_not_mem (Ne.symm hid) hsubject⟩

theorem hasCycle_eq_false_iff : hasCycle types subject parent = .ok false ↔
    parent = noType ∨
      ∃ chain, IsChain types parent chain ∧ chain.length ≤ maxDepth ∧ subject ∉ chain := by
  unfold hasCycle
  split
  next hroot => simp [hroot]
  next hroot =>
    rw [or_iff_right hroot]
    constructor
    · exact exists_isChain_of_meets
    · rintro ⟨chain, hchain, hlength, hsubject⟩
      rw [hchain.meets_eq, List.take_of_length_le hlength, if_neg hsubject, if_pos hlength]

/-! ## Moving a type -/

theorem find?_reparent : find? (reparent types subject parent) id =
    (find? types id).map fun type => if type.id = subject then { type with parent } else type := by
  rw [find?, reparent, ← List.map_reverse, List.find?_map, find?]
  congr 2
  funext type
  simp only [Function.comp_apply]
  split <;> rfl

/-- Only the parent of the moved type changes, if there is such a type. -/
theorem parentOf?_reparent : parentOf? (reparent types subject parent) id =
    if id = subject then (parentOf? types id).map fun _ => parent else parentOf? types id := by
  rw [parentOf?, find?_reparent, parentOf?, Option.map_map, Option.map_map]
  cases hfind : find? types id with
  | none => simp
  | some type =>
      have hid := id_of_find? hfind
      by_cases hsubject : id = subject <;> simp [hid, hsubject]

theorem parentOf?_reparent_of_ne {other : Int} (hid : id ≠ subject)
    (hparent : parentOf? types id = some other) :
    parentOf? (reparent types subject parent) id = some other := by
  rw [parentOf?_reparent, if_neg hid, hparent]

theorem exists_mem_reparent_iff :
    (∃ type ∈ reparent types subject parent, type.id = id) ↔ ∃ type ∈ types, type.id = id := by
  rw [← find?_isSome_iff, find?_reparent, Option.isSome_map, find?_isSome_iff]

/-- The chain up to the moved type is still there. -/
theorem IsChain.exists_ascend_reparent (h : IsChain types id chain) (hsubject : subject ∈ chain) :
    ∃ steps, ascend (reparent types subject parent) steps id = some subject := by
  induction h with
  | root =>
      obtain rfl := List.mem_singleton.mp hsubject
      exact ⟨0, rfl⟩
  | @child id _ _ hparent _ _ ih =>
      by_cases hid : id = subject
      · exact ⟨0, congrArg some hid⟩
      · obtain ⟨steps, hsteps⟩ := ih ((List.mem_cons.mp hsubject).resolve_left (Ne.symm hid))
        refine ⟨steps + 1, ?_⟩
        rw [ascend, parentOf?_reparent_of_ne hid hparent, Option.bind_some, hsteps]

/-- A forest is still one if the chain of the new parent does not have the moved type. -/
theorem isForest_reparent (hforest : IsForest types) (hchain : IsChain types parent chain)
    (hsubject : subject ∉ chain) : IsForest (reparent types subject parent) := by
  intro type htype
  obtain ⟨former, hformer, hid⟩ := exists_mem_reparent_iff.mp ⟨type, htype, rfl⟩
  rw [← hid]
  have hkept (id other : Int) (hid : id ≠ subject) (hother : parentOf? types id = some other) :
      parentOf? (reparent types subject parent) id = some other :=
    parentOf?_reparent_of_ne hid hother
  cases hknown : parentOf? types subject with
  | none =>
      refine (hforest former hformer).mono fun id other hother => hkept id other ?_ hother
      rintro rfl
      rw [hknown] at hother
      cases hother
  | some other =>
      have hmoved : parentOf? (reparent types subject parent) subject = some parent := by
        rw [parentOf?_reparent, if_pos rfl, hknown, Option.map_some]
      have hmeets : meets types subject chain.length parent = .ok false := by
        rw [hchain.meets_eq, List.take_length, if_neg hsubject, if_pos (Nat.le_refl _)]
      exact (hforest former hformer).move hkept hmoved (rooted_of_meets hkept hmeets)

theorem IsForest.not_isCyclic (hforest : IsForest types)
    (hzero : ∀ type ∈ types, type.id ≠ noType) : ¬ IsCyclic types := by
  rintro ⟨id, steps, hreturn⟩
  refine hforest.ascend_ne (parentOf?_eq_none hzero) (fun id parent hparent => ?_) id steps hreturn
  rw [← parentOf?_isSome_iff, hparent]
  rfl

/-- A move makes a cycle if and only if it is under the type itself or a type below it. -/
theorem isCyclic_reparent_iff (hforest : IsForest types)
    (hzero : ∀ type ∈ types, type.id ≠ noType) (hchain : IsChain types parent chain) :
    IsCyclic (reparent types subject parent) ↔ subject ∈ chain := by
  constructor
  · intro hcyclic
    by_cases hsubject : subject ∈ chain
    · exact hsubject
    have hreparented := isForest_reparent hforest hchain hsubject
    refine absurd hcyclic (hreparented.not_isCyclic fun type htype => ?_)
    obtain ⟨former, hformer, hid⟩ := exists_mem_reparent_iff.mp ⟨type, htype, rfl⟩
    rw [← hid]
    exact hzero former hformer
  · intro hsubject
    obtain ⟨other, hother⟩ := hchain.exists_parent hsubject
    obtain ⟨steps, hsteps⟩ : ∃ steps, ascend (reparent types subject parent) steps parent =
        some subject := hchain.exists_ascend_reparent hsubject
    refine ⟨parent, steps, ?_⟩
    rw [ascend_succ, hsteps, Option.bind_some, parentOf?_reparent, if_pos rfl, hother,
      Option.map_some]

/-- The search allows a move only if it has seen the whole chain of the new parent, without the
moved type. In a forest this is the one chain of the parent: if the search can see all of it, then
it tells whether the move makes a cycle, and otherwise it fails unless it comes across the moved
type. -/
theorem hasCycle_decides (types : List SpendType) (subject parent : Int) :
    (hasCycle types subject parent = .ok false ↔ parent = noType ∨
      ∃ chain, IsChain types parent chain ∧ chain.length ≤ maxDepth ∧ subject ∉ chain) ∧
    (IsForest types → (∀ type ∈ types, type.id ≠ noType) → (∃ type ∈ types, type.id = parent) →
      ∃ chain, (∀ other, IsChain types parent other ↔ other = chain) ∧
        (chain.length ≤ maxDepth → ∃ answer, hasCycle types subject parent = .ok answer ∧
          (answer = true ↔ IsCyclic (reparent types subject parent)) ∧
          (answer = true ↔ subject ≠ noType ∧ IsBelow types parent subject)) ∧
        (maxDepth < chain.length → hasCycle types subject parent =
          if subject ∈ chain.take maxDepth then .ok true
          else .error (.hierarchy .tooDeep))) := by
  refine ⟨hasCycle_eq_false_iff, ?_⟩
  rintro hforest hzero ⟨type, htype, rfl⟩
  have hroot := parentOf?_eq_none hzero
  obtain ⟨chain, hchain⟩ := (hforest type htype).exists_isChain hroot (hzero type htype)
  have hsearch : hasCycle types subject type.id =
      if subject ∈ chain.take maxDepth then .ok true
      else if chain.length ≤ maxDepth then .ok false
      else .error (.hierarchy .tooDeep) := by
    rw [hasCycle, if_neg (hzero type htype), hchain.meets_eq]
  refine ⟨chain, fun other => ⟨fun h => h.unique hchain, ?_⟩, fun hlength => ?_, fun hlength => ?_⟩
  · rintro rfl
    exact hchain
  · refine ⟨decide (subject ∈ chain), ?_, ?_, ?_⟩
    · rw [hsearch, List.take_of_length_le hlength, if_pos hlength]
      by_cases hsubject : subject ∈ chain <;> simp [hsubject]
    · rw [decide_eq_true_iff, isCyclic_reparent_iff hforest hzero hchain]
    · rw [decide_eq_true_iff, hchain.mem_iff hroot]
  · rw [hsearch, if_neg (Nat.not_le.mpr hlength)]

/-- Seventeen types above one another. A move of the fourth under the fifteenth is seen to make a
cycle. The second stands too far above the seventeenth to be found from there. -/
theorem hasCycle_seventeenTypes :
    let types : List SpendType :=
      (List.range 17).map fun (above : Nat) => ⟨above + 1, "Folder", above⟩
    (hasCycle types 4 15 = .ok true ∧ IsCyclic (reparent types 4 15)) ∧
      hasCycle types 2 17 = .error (.hierarchy .tooDeep) := by
  intro types
  have hzero : ∀ type ∈ types, type.id ≠ noType := by decide
  have hroot := parentOf?_eq_none hzero
  have hforest : IsForest types := by
    have hchains : ∀ type ∈ types, HasChain types type.id type.id.toNat := by decide
    exact fun type htype => (hchains type htype).rooted
  constructor
  · obtain ⟨chain, hchain, hshort, -⟩ :=
      (hasCycle_decides types 4 15).2 hforest hzero (by decide)
    have hlength : HasChain types 15 15 := by decide
    obtain rfl := (hchain _).mp (HasChain.isChain_walk hroot hlength)
    obtain ⟨answer, hanswer, hcyclic, hbelow⟩ := hshort (by decide)
    obtain rfl : answer = true := hbelow.mpr ⟨by decide, 11, by decide⟩
    exact ⟨hanswer, hcyclic.mp rfl⟩
  · obtain ⟨chain, hchain, -, hlong⟩ :=
      (hasCycle_decides types 2 17).2 hforest hzero (by decide)
    have hlength : HasChain types 17 17 := by decide
    obtain rfl := (hchain _).mp (HasChain.isChain_walk hroot hlength)
    exact (hlong (by decide)).trans (if_neg (by decide))

end Allowance.SpendType
