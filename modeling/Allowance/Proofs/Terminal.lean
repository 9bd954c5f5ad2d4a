import Allowance.Proofs.Console.SetUp
import Allowance.Terminal.Conventions

/-!
# Configuration files at a terminal

What is written for a new configuration at a terminal is read again as this configuration.
-/

namespace Allowance.Terminal

open Console Settings

/-- The entries of a table that holds nothing but texts. -/
def texts? (table : Data.Table) : Option (List (String × String)) :=
  table.mapM fun (key, value) =>
    match value with
    | .text s => some (key, s)
    | _ => none

/-- A table of texts is known by them. -/
theorem eq_of_texts? {table : Data.Table} {entries : List (String × String)}
    (h : texts? table = some entries) :
    table = entries.map fun entry => (entry.1, .text entry.2) := by
  induction table generalizing entries with
  | nil =>
      cases h
      rfl
  | cons entry rest ih =>
      obtain ⟨key, value⟩ := entry
      rw [texts?, List.mapM_cons] at h
      obtain ⟨first, hfirst, h⟩ := Option.bind_eq_some_iff.mp h
      obtain ⟨others, hothers, h⟩ := Option.bind_eq_some_iff.mp h
      cases h
      cases value with
      | text s =>
          cases hfirst
          rw [List.map_cons, ← ih hothers]
      | _ => cases hfirst

/-- What a new configuration file says for each currency. -/
theorem texts?_written (currency : Currency) :
    ((writeTable (newTable (some currency.code))).bind readTable).toOption.bind texts? =
      texts? (newTable (some currency.code)) := by
  cases currency <;> decide +kernel

theorem texts?_newTable (currency : Currency) :
    ∃ entries, texts? (newTable (some currency.code)) = some entries := by
  cases currency <;> exact ⟨_, rfl⟩

theorem writesReadably (present : Nat) : (conventions present).WritesReadably := by
  intro currency text htext
  have hwritten := texts?_written currency
  obtain ⟨entries, hentries⟩ := texts?_newTable currency
  change writeTable (newTable (some currency.code)) = .ok text at htext
  rw [htext, hentries] at hwritten
  change (readTable text).toOption.bind texts? = some entries at hwritten
  obtain ⟨config, hconfig, hsame⟩ := Option.bind_eq_some_iff.mp hwritten
  rw [eq_ok_of_toOption hconfig, eq_of_texts? hsame, ← eq_of_texts? hentries]

end Allowance.Terminal
