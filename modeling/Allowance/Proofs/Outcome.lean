import Mathlib.Tactic.Tauto
import Allowance.Change
import Allowance.Ledger.Basic
import Allowance.Proofs.Failure
import Allowance.Proofs.Table

/-!
# Outcomes of steps that may fail

A sequence of steps succeeds exactly when every step of it does. The equivalences here take a
successful sequence apart, so that later proofs never look into the sequencing itself.
-/

namespace Allowance

namespace Outcome

variable {ε α β : Type}

instance decidableForallOk (x : Except ε α) (property : α → Prop) [DecidablePred property] :
    Decidable (∀ a, x = .ok a → property a) :=
  match x with
  | .error _ => isTrue nofun
  | .ok a => decidable_of_iff (property a) ⟨fun h _ heq => Except.ok.inj heq ▸ h, fun h => h a rfl⟩

instance decidableExistsOk (x : Except ε α) : Decidable (∃ a, x = .ok a) :=
  match x with
  | .error _ => isFalse nofun
  | .ok a => isTrue ⟨a, rfl⟩

theorem bind_eq_ok {x : Except ε α} {f : α → Except ε β} {b : β} :
    (x >>= f) = .ok b ↔ ∃ a, x = .ok a ∧ f a = .ok b := by
  cases x with
  | error e => simp [bind, Except.bind]
  | ok a => simp [bind, Except.bind]

theorem bind_eq_error {x : Except ε α} {f : α → Except ε β} {e : ε} :
    (x >>= f) = .error e ↔ x = .error e ∨ ∃ a, x = .ok a ∧ f a = .error e := by
  cases x with
  | error other => simp [bind, Except.bind]
  | ok a => simp [bind, Except.bind]

theorem map_eq_ok {x : Except ε α} {f : α → β} {b : β} :
    x.map f = .ok b ↔ ∃ a, x = .ok a ∧ f a = b := by
  cases x with
  | error e => simp [Except.map]
  | ok a => simp [Except.map]

theorem map_eq_error {x : Except ε α} {f : α → β} {e : ε} :
    x.map f = .error e ↔ x = .error e := by
  cases x with
  | error other => simp [Except.map]
  | ok a => simp [Except.map]

theorem pure_eq_ok {a b : α} : (pure a : Except ε α) = .ok b ↔ b = a := by
  simp [pure, Except.pure, eq_comm]

/-- Visiting a list succeeds exactly when every item of it does, with the results in order. -/
theorem mapM_eq_ok {f : α → Except ε β} {items : List α} {results : List β} :
    items.mapM f = .ok results ↔ items.map f = results.map .ok := by
  induction items generalizing results with
  | nil => cases results <;> simp [pure, Except.pure]
  | cons item rest ih =>
      rw [List.mapM_cons]
      simp only [bind_eq_ok, pure_eq_ok, ih]
      cases results with
      | nil => simp
      | cons result others =>
          simp only [List.map_cons, List.cons.injEq]
          constructor
          · rintro ⟨b, hb, bs, hbs, rfl, rfl⟩
            exact ⟨hb, hbs⟩
          · rintro ⟨hb, hbs⟩
            exact ⟨result, hb, others, hbs, rfl, rfl⟩

/-- Checking every item of a list gives the list back, if all items pass. -/
theorem mapM_check_eq_ok {check : α → Except ε α} {passes : α → Prop}
    (hcheck : ∀ item result, check item = .ok result ↔ passes item ∧ result = item)
    {items results : List α} :
    items.mapM check = .ok results ↔ (∀ item ∈ items, passes item) ∧ results = items := by
  rw [mapM_eq_ok]
  induction items generalizing results with
  | nil => simp
  | cons item rest ih =>
      cases results with
      | nil => simp
      | cons result others =>
          simp only [List.map_cons, List.cons.injEq, hcheck, ih, List.forall_mem_cons]
          tauto

/-- Visiting a list fails as one of its items does. -/
theorem exists_of_mapM_eq_error {f : α → Except ε β} {items : List α} {e : ε}
    (h : items.mapM f = .error e) : ∃ item ∈ items, f item = .error e := by
  induction items with
  | nil => cases h
  | cons item rest ih =>
      rw [List.mapM_cons, bind_eq_error] at h
      rcases h with hitem | ⟨b, -, hlater⟩
      · exact ⟨item, List.mem_cons_self, hitem⟩
      · rcases bind_eq_error.mp hlater with hrest | ⟨bs, -, hdone⟩
        · obtain ⟨failing, hmem, hfailing⟩ := ih hrest
          exact ⟨failing, List.mem_cons_of_mem _ hmem, hfailing⟩
        · cases hdone

/-- Visiting a list fails in one way only if every item that fails does so in that way. -/
theorem mapM_eq_error {f : α → Except ε β} {items : List α} {e : ε}
    (hfails : ∃ item ∈ items, f item = .error e)
    (honly : ∀ item ∈ items, ∀ other, f item = .error other → other = e) :
    items.mapM f = .error e := by
  induction items with
  | nil => simp at hfails
  | cons item rest ih =>
      obtain ⟨hitem, hrest⟩ := List.forall_mem_cons.mp honly
      rw [List.mapM_cons]
      cases hfirst : f item with
      | error other =>
          rw [hitem other hfirst]
          rfl
      | ok b =>
          have hlater : ∃ item ∈ rest, f item = .error e := by
            obtain ⟨failing, hmem, hfailing⟩ := hfails
            rcases List.mem_cons.mp hmem with rfl | hmem
            · rw [hfirst] at hfailing
              cases hfailing
            · exact ⟨failing, hmem, hfailing⟩
          rw [ih hlater hrest]
          rfl

end Outcome

theorem refuse_eq_ok {why : Option Rejection} {u : Unit} : refuse why = .ok u ↔ why = none := by
  cases why <;> simp [refuse]

namespace Ledger

theorem requireStorable_eq_ok {i : Int} {u : Unit} :
    requireStorable i = .ok u ↔ IsStorable i := by
  unfold requireStorable
  split <;> simp_all

theorem require_eq_ok {α : Type} [Numbered α] {rows : List α} {what : Entity} {id : Int} {row : α} :
    require rows what id = .ok row ↔ Table.find? rows id = some row := by
  unfold require
  cases Table.find? rows id with
  | some found => simp
  | none => by_cases h : IsStorable id <;> simp [h]

/-- What a row may refer to as its type: none at all, or one that exists. -/
def KnowsType (l : Ledger) (id : Int) : Prop :=
  id = SpendType.noType ∨ id ∈ Table.numbers l.types

theorem requireType_eq_ok {l : Ledger} {id : Int} {u : Unit} :
    l.requireType id = .ok u ↔ l.KnowsType id := by
  unfold requireType KnowsType
  rw [← Table.find?_isSome_iff]
  split
  next h => simp [h]
  next h => simp [Outcome.map_eq_ok, require_eq_ok, h]

end Ledger

end Allowance
