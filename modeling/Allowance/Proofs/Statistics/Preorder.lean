import Allowance.Proofs.Statistics.Traversal

/-!
# The order of a report

A report lists the sums that have a place in its tree, each once and at its depth. Every entry comes
after that of its parent with nothing but deeper or equally deep entries in between, and siblings
come in the order of their amounts.
-/

namespace Allowance.Statistics

open Number SpendType

variable {types : List SpendType} {sums siblings : Sums} {entries : List TypeSpent} {depth : Nat}

/-! ## Places of entries -/

theorem StandsAt.above {id : Int} (levels : Nat) (h : StandsAt types sums (depth + levels) id) :
    StandsAt types sums depth (reportedAbove types sums levels id) := by
  induction levels generalizing id with
  | zero => exact h
  | succ levels ih =>
      rw [reportedAbove_succ]
      cases h with
      | child _ _ _ h => exact ih h

/-- An entry is that of a sum, at the depth where the sum stands, and it belongs to one of some
siblings or to what is below them. -/
structure IsPlacedUnder (types : List SpendType) (sums : Sums) (depth : Nat) (siblings : Sums)
    (entry : TypeSpent) : Prop where
  mem : (entry.typeId, entry.spent) ∈ sums
  stands : StandsAt types sums entry.depth entry.typeId
  above : ∃ levels, entry.depth = depth + levels ∧
    reportedAbove types sums levels entry.typeId ∈ Sums.ids siblings

theorem IsPlacedUnder.depth_le {entry : TypeSpent}
    (h : IsPlacedUnder types sums depth siblings entry) : depth ≤ entry.depth := by
  obtain ⟨levels, hlevels, -⟩ := h.above
  omega

theorem IsLevel.placed {id : Int} {spent : Money} {later : Sums} (name : String)
    (h : IsLevel types sums depth ((id, spent) :: later)) :
    IsPlacedUnder types sums depth ((id, spent) :: later) ⟨id, name, spent, depth⟩ where
  mem := h.mem _ List.mem_cons_self
  stands := h.stands _ List.mem_cons_self
  above := ⟨0, rfl, List.mem_cons_self⟩

theorem IsPlacedUnder.later {entry : TypeSpent} {first : Int × Money}
    (h : IsPlacedUnder types sums depth siblings entry) :
    IsPlacedUnder types sums depth (first :: siblings) entry where
  mem := h.mem
  stands := h.stands
  above := by
    obtain ⟨levels, hlevels, habove⟩ := h.above
    exact ⟨levels, hlevels, List.mem_cons_of_mem _ habove⟩

/-- What stands under the children of a type is one level more below that type. -/
theorem IsPlacedUnder.above_eq {entry : TypeSpent} {id : Int} {children : Sums}
    (h : IsPlacedUnder types sums (depth + 1) children entry)
    (hchildren : children.Perm (reportedChildren types sums id)) :
    ∃ levels, entry.depth = depth + (levels + 1) ∧
      reportedAbove types sums (levels + 1) entry.typeId = id := by
  obtain ⟨levels, hlevels, habove⟩ := h.above
  obtain ⟨child, hchild, hchildId⟩ := List.mem_map.mp habove
  refine ⟨levels, by omega, ?_⟩
  rw [reportedAbove, ← hchildId]
  exact (mem_reportedChildren.mp (hchildren.mem_iff.mp hchild)).2.2

section Placed

variable {id : Int} {spent : Money} {later children : Sums}

/-- The children of a type that stands somewhere, as they are sorted, are a level. -/
theorem IsLevel.sortedChildren (hnodup : (Sums.ids sums).Nodup)
    (hlevel : IsLevel types sums depth ((id, spent) :: later)) (hid : id ≠ noType)
    (hchildren : bySpent (reportedChildren types sums id) = .ok children) :
    IsLevel types sums (depth + 1) children :=
  (IsLevel.children hnodup hid (hlevel.stands _ List.mem_cons_self)).perm (bySpent_spec hchildren).1

variable (hnodup : (Sums.ids sums).Nodup)
include hnodup

theorem Reports.placed (h : Reports types sums depth siblings entries)
    (hlevel : IsLevel types sums depth siblings) :
    ∀ entry ∈ entries, IsPlacedUnder types sums depth siblings entry := by
  induction h with
  | nil => exact fun _ hentry => absurd hentry List.not_mem_nil
  | untyped _ ih =>
      intro entry hentry
      rcases List.mem_cons.mp hentry with rfl | hentry
      · exact hlevel.placed _
      · exact (ih hlevel.tail entry hentry).later
  | @typed depth id _ _ children _ _ hid hchildren _ _ ihUnder ih =>
      intro entry hentry
      rcases List.mem_cons.mp hentry with rfl | hentry
      · exact hlevel.placed _
      rcases List.mem_append.mp hentry with hentry | hentry
      · have hplaced := ihUnder (hlevel.sortedChildren hnodup hid hchildren) entry hentry
        obtain ⟨levels, hlevels, habove⟩ := hplaced.above_eq (bySpent_spec hchildren).1
        exact ⟨hplaced.mem, hplaced.stands, levels + 1, hlevels, by
          rw [habove]
          exact List.mem_cons_self⟩
      · exact (ih hlevel.tail entry hentry).later

/-- An entry at the depth of the siblings is that of one of them. -/
theorem IsPlacedUnder.mem_siblings {entry : TypeSpent}
    (h : IsPlacedUnder types sums depth siblings entry) (hsiblings : siblings ⊆ sums)
    (hdepth : entry.depth = depth) : (entry.typeId, entry.spent) ∈ siblings := by
  obtain ⟨levels, hlevels, habove⟩ := h.above
  obtain rfl : levels = 0 := by omega
  obtain ⟨⟨id, amount⟩, hsibling, hid⟩ := List.mem_map.mp habove
  obtain rfl : id = entry.typeId := hid
  rw [((Sums.mem_iff_amountOf hnodup 0).mp h.mem).2,
    ← ((Sums.mem_iff_amountOf hnodup 0).mp (hsiblings hsibling)).2]
  exact hsibling

omit hnodup in
/-- The entry of a sibling is not listed again with the later ones. -/
theorem IsPlacedUnder.ne_of_later {entry : TypeSpent}
    (h : IsPlacedUnder types sums depth later entry)
    (hlevel : IsLevel types sums depth ((id, spent) :: later)) : id ≠ entry.typeId := by
  rintro rfl
  obtain ⟨levels, hlevels, habove⟩ := h.above
  have hdepth := h.stands.unique (hlevel.stands _ List.mem_cons_self)
  obtain rfl : levels = 0 := by omega
  exact (List.nodup_cons.mp hlevel.nodup).1 habove

omit hnodup in
/-- An entry below a type has another parent than an entry below a later sibling. -/
theorem IsPlacedUnder.parent_ne (hlevel : IsLevel types sums depth ((id, spent) :: later))
    (hchildren : bySpent (reportedChildren types sums id) = .ok children) {a b : TypeSpent}
    (ha : IsPlacedUnder types sums (depth + 1) children a)
    (hb : IsPlacedUnder types sums depth later b) (hdepth : a.depth = b.depth) :
    reportedParent types sums a.typeId ≠ reportedParent types sums b.typeId := by
  obtain ⟨levels, hlevels, habove⟩ := ha.above_eq (bySpent_spec hchildren).1
  obtain ⟨others, hothers, hother⟩ := hb.above
  obtain rfl : others = levels + 1 := by omega
  intro hsame
  rw [reportedAbove_succ] at habove hother
  rw [← hsame, habove] at hother
  exact (List.nodup_cons.mp hlevel.nodup).1 hother

/-! ## The order of entries -/

/-- Of two entries, the earlier one is about another number, and if they are siblings then it
precedes the later one in an order that siblings are in. -/
def InOrder (types : List SpendType) (sums : Sums) (precedes : Int × Money → Int × Money → Prop)
    (depth : Nat) (a b : TypeSpent) : Prop :=
  a.typeId ≠ b.typeId ∧
    (a.depth = b.depth →
      (depth < a.depth → reportedParent types sums a.typeId = reportedParent types sums b.typeId) →
      precedes (a.typeId, a.spent) (b.typeId, b.spent))

theorem Reports.pairwise (precedes : Int × Money → Int × Money → Prop)
    (h : Reports types sums depth siblings entries) (hlevel : IsLevel types sums depth siblings)
    (hsiblings : siblings.Pairwise precedes)
    (hsorted : ∀ id children, bySpent (reportedChildren types sums id) = .ok children →
      children.Pairwise precedes) :
    entries.Pairwise (InOrder types sums precedes depth) := by
  have hfirst {id : Int} {spent : Money} {name : String} {later : Sums} {depth : Nat}
      {entry : TypeSpent} (hlevel : IsLevel types sums depth ((id, spent) :: later))
      (hsiblings : ((id, spent) :: later).Pairwise precedes)
      (hplaced : IsPlacedUnder types sums depth later entry) :
      InOrder types sums precedes depth ⟨id, name, spent, depth⟩ entry := by
    refine ⟨hplaced.ne_of_later hlevel, fun hdepth _ => ?_⟩
    have hmem := hplaced.mem_siblings hnodup (fun _ => hlevel.tail.mem _) hdepth.symm
    exact (List.pairwise_cons.mp hsiblings).1 _ hmem
  induction h with
  | nil => exact List.Pairwise.nil
  | untyped h ih =>
      obtain ⟨-, hlater⟩ := List.pairwise_cons.mp hsiblings
      refine List.pairwise_cons.mpr ⟨fun entry hentry => ?_, ih hlevel.tail hlater⟩
      exact hfirst hlevel hsiblings (h.placed hnodup hlevel.tail entry hentry)
  | @typed depth id spent later children under entries hid hchildren hunder h ihUnder ih =>
      obtain ⟨-, hlater⟩ := List.pairwise_cons.mp hsiblings
      have hchildrenLevel := hlevel.sortedChildren hnodup hid hchildren
      have hunderPlaced := hunder.placed hnodup hchildrenLevel
      have hentriesPlaced := h.placed hnodup hlevel.tail
      refine List.pairwise_cons.mpr ⟨fun entry hentry => ?_, List.pairwise_append.mpr
        ⟨(ihUnder hchildrenLevel (hsorted id children hchildren)).imp fun hab => ?_,
          ih hlevel.tail hlater, fun a ha b hb => ?_⟩⟩
      · rcases List.mem_append.mp hentry with hentry | hentry
        · have hdeeper := (hunderPlaced entry hentry).depth_le
          refine ⟨fun hsame => ?_, fun hdepth => ?_⟩
          · have hstands := (hunderPlaced entry hentry).stands
            rw [← hsame] at hstands
            have := hstands.unique (hlevel.stands _ List.mem_cons_self)
            omega
          · dsimp only at hdepth
            omega
        · exact hfirst hlevel hsiblings (hentriesPlaced entry hentry)
      · exact ⟨hab.1, fun hdepth hparent => hab.2 hdepth fun hlt => hparent (by omega)⟩
      -- An entry below the type and one of its later siblings have different parents.
      · have hne := IsPlacedUnder.parent_ne hlevel hchildren (hunderPlaced a ha)
          (hentriesPlaced b hb)
        refine ⟨fun hsame => ?_, fun hdepth hparent => ?_⟩
        · have hstands := (hunderPlaced a ha).stands
          rw [hsame] at hstands
          exact hne (hstands.unique (hentriesPlaced b hb).stands) (by rw [hsame])
        · exact absurd (hparent (hunderPlaced a ha).depth_le) (hne hdepth)

theorem Reports.nodup (h : Reports types sums depth siblings entries)
    (hlevel : IsLevel types sums depth siblings) : (entries.map (·.typeId)).Nodup := by
  rw [List.Nodup, List.pairwise_map]
  have hpairwise := h.pairwise hnodup (fun _ _ => True) hlevel
    (List.pairwise_of_forall fun _ _ => trivial)
    (fun _ _ _ => List.pairwise_of_forall fun _ _ => trivial)
  exact hpairwise.imp And.left

/-! ## Completeness -/

/-- Whatever stands below the siblings has an entry. -/
theorem Reports.exists_entry (h : Reports types sums depth siblings entries)
    (hlevel : IsLevel types sums depth siblings) {levels : Nat} {id : Int}
    (hstands : StandsAt types sums (depth + levels) id)
    (habove : reportedAbove types sums levels id ∈ Sums.ids siblings) :
    ∃ entry ∈ entries, entry.typeId = id := by
  induction h generalizing levels with
  | nil => exact absurd habove List.not_mem_nil
  | untyped _ ih =>
      rcases List.mem_cons.mp habove with hroot | hlater
      · cases levels with
        | zero => exact ⟨_, List.mem_cons_self, hroot.symm⟩
        | succ levels =>
            rw [Nat.add_left_comm, Nat.add_comm] at hstands
            cases hstands.above levels with
            | child _ _ hparent => exact absurd hroot hparent
      · obtain ⟨entry, hentry, hid⟩ := ih hlevel.tail hstands hlater
        exact ⟨entry, List.mem_cons_of_mem _ hentry, hid⟩
  | @typed depth top spent later children under entries htop hchildren _ _ ihUnder ih =>
      rcases List.mem_cons.mp habove with hhere | hlater
      · cases levels with
        | zero => exact ⟨_, List.mem_cons_self, hhere.symm⟩
        | succ levels =>
            have hstands' : StandsAt types sums (depth + 1 + levels) id := by
              rw [Nat.add_assoc, Nat.add_comm 1]
              exact hstands
            cases hstands'.above levels with
            | child hmem hid _ _ =>
                obtain ⟨child, hchild, hchildId⟩ := List.mem_map.mp hmem
                have hreported : child ∈ reportedChildren types sums top := by
                  rw [mem_reportedChildren, hchildId]
                  exact ⟨hchild, hid, hhere⟩
                have hsorted := (bySpent_spec hchildren).1.mem_iff.mpr hreported
                obtain ⟨entry, hentry, hfound⟩ :=
                  ihUnder (hlevel.sortedChildren hnodup htop hchildren) hstands'
                    (hchildId ▸ Sums.mem_ids_of_mem hsorted)
                exact ⟨entry, List.mem_cons_of_mem _ (List.mem_append_left _ hentry), hfound⟩
      · obtain ⟨entry, hentry, hid⟩ := ih hlevel.tail hstands hlater
        exact ⟨entry, List.mem_cons_of_mem _ (List.mem_append_right _ hentry), hid⟩

/-- The entries at the depth of the siblings are theirs, in their order. -/
theorem Reports.filter_depth (h : Reports types sums depth siblings entries)
    (hlevel : IsLevel types sums depth siblings) :
    (entries.filter (·.depth = depth)).map (fun entry => (entry.typeId, entry.spent)) =
      siblings := by
  induction h with
  | nil => rfl
  | untyped _ ih =>
      rw [List.filter_cons_of_pos (by simp), List.map_cons, ih hlevel.tail]
  | @typed depth id _ _ children under _ hid hchildren hunder _ _ ih =>
      have hdeeper : under.filter (·.depth = depth) = [] := by
        rw [List.filter_eq_nil_iff]
        intro entry hentry
        have := (hunder.placed hnodup (hlevel.sortedChildren hnodup hid hchildren) entry
          hentry).depth_le
        rw [decide_eq_true_iff]
        omega
      rw [List.filter_cons_of_pos (by simp), List.filter_append, hdeeper, List.nil_append,
        List.map_cons, ih hlevel.tail]

end Placed

/-- Every entry has a decimal, as those of the siblings do. -/
theorem Reports.exists_decimal (h : Reports types sums depth siblings entries)
    (hsiblings : ∀ sibling ∈ siblings, ∃ d, sibling.2.toDecimal = .ok d) :
    ∀ entry ∈ entries, ∃ d, entry.spent.toDecimal = .ok d := by
  induction h with
  | nil => exact fun _ hentry => absurd hentry List.not_mem_nil
  | untyped _ ih =>
      obtain ⟨hfirst, hlater⟩ := List.forall_mem_cons.mp hsiblings
      exact List.forall_mem_cons.mpr ⟨hfirst, ih hlater⟩
  | typed _ hchildren _ _ ihUnder ih =>
      obtain ⟨hfirst, hlater⟩ := List.forall_mem_cons.mp hsiblings
      obtain ⟨hperm, hdecimals, -⟩ := bySpent_spec hchildren
      have hunder := ihUnder fun child hchild => hdecimals child (hperm.mem_iff.mp hchild)
      exact List.forall_mem_cons.mpr ⟨hfirst, List.forall_mem_append.mpr ⟨hunder, ih hlater⟩⟩

/-- An entry has the full name of its type, or the name for spends without one. -/
theorem Reports.name_eq (h : Reports types sums depth siblings entries) :
    ∀ entry ∈ entries, entry.name =
      if entry.typeId = noType then untypedName
      else (fullName? types entry.typeId).getD untypedName := by
  induction h with
  | nil => exact fun _ hentry => absurd hentry List.not_mem_nil
  | untyped _ ih => exact List.forall_mem_cons.mpr ⟨rfl, ih⟩
  | typed hid _ _ _ ihUnder ih =>
      exact List.forall_mem_cons.mpr ⟨(if_neg hid).symm, List.forall_mem_append.mpr ⟨ihUnder, ih⟩⟩

end Allowance.Statistics
