import Allowance.Proofs.Currency
import Allowance.Proofs.Files.Growth
import Allowance.Settings

/-!
# Settings after a set-up

A new configuration gives the settings that it is written for. The environment goes on to give the
log level and the place of the database.
-/

namespace Allowance

open Outcome

namespace Settings

/-- A configuration for a currency with defaults for the rest, and no place for a database. -/
def IsNewFor (config : Data.Table) (currency : Currency) : Prop :=
  (currencyOf config).toOption = some currency ∧ (policyOf config).toOption = some .any ∧
    (plainOf config "log_level").toOption = some LogLevel.warning.name ∧
    (config.lookup "db_path").isNone = true

instance (config : Data.Table) (currency : Currency) : Decidable (IsNewFor config currency) :=
  inferInstanceAs (Decidable (_ ∧ _))

theorem isNewFor_newTable (currency : Currency) :
    IsNewFor (newTable (some currency.code)) currency := by
  cases currency <;> decide +kernel

theorem eq_ok_of_toOption {ε α : Type} {x : Except ε α} {a : α} (h : x.toOption = some a) :
    x = .ok a := by
  cases x with
  | error why => cases h
  | ok found => exact congrArg Except.ok (Option.some.inj h)

/-- A log level that an environment allows for one configuration is there for every new one. -/
theorem exists_logLevelOf {old config : Data.Table} {env : Environment} {currency : Currency}
    {level : LogLevel} (hold : logLevelOf old env = .ok level) (hnew : IsNewFor config currency) :
    ∃ level, logLevelOf config env = .ok level := by
  unfold logLevelOf at hold ⊢
  cases hgiven : Environment.given env.logLevel with
  | some name =>
      rw [hgiven] at hold
      exact ⟨level, hold⟩
  | none =>
      have hname : LogLevel.ofName? (Text.upper LogLevel.warning.name) = some .warning := by
        decide +kernel
      refine ⟨.warning, ?_⟩
      simp only [eq_ok_of_toOption hnew.2.2.1, bind, Except.bind, hname, pure, Except.pure]

/-- A new configuration is read in every environment in which another one has been read. -/
theorem exists_ofTable {old config : Data.Table} {env : Environment} {settings : Settings}
    {currency : Currency} (hold : ofTable old env = .ok settings)
    (hnew : IsNewFor config currency) :
    ∃ level, ofTable config env = .ok ⟨currency, .any, level, none⟩ := by
  obtain ⟨_, _, hold⟩ := bind_eq_ok.mp hold
  obtain ⟨_, _, hold⟩ := bind_eq_ok.mp hold
  obtain ⟨level, hlevel, _⟩ := bind_eq_ok.mp hold
  obtain ⟨level, hlevel⟩ := exists_logLevelOf hlevel hnew
  have hdatabase : databaseOf config env = .ok none := by
    rw [databaseOf, Option.isNone_iff_eq_none.mp hnew.2.2.2]
    rfl
  refine ⟨level, ?_⟩
  rw [ofTable, eq_ok_of_toOption hnew.1, eq_ok_of_toOption hnew.2.1, hlevel, hdatabase]
  rfl

/-! ## Files -/

variable {files final : Files} {env : Environment} {settings : Settings} {configPath : Path}

theorem load_eq_ok (hconfig : env.configPath = .ok configPath) :
    load files env = .ok settings ↔
      ∃ config, tableAt files configPath = .ok config ∧ ofTable config env = .ok settings := by
  rw [load, hconfig]
  change (tableAt files configPath >>= fun config => ofTable config env) = _ ↔ _
  exact bind_eq_ok

theorem tableAt_of_read {text : String} (h : files.read configPath = .ok (.text text)) :
    tableAt files configPath = readTable text := by
  rw [tableAt, h]

/-- A configuration file that is there is a text; without one the configuration is empty. -/
theorem tableAt_cases {config : Data.Table} (h : tableAt files configPath = .ok config) :
    (∃ text, files.read configPath = .ok (.text text) ∧ readTable text = .ok config) ∨
      (∃ text, files.read configPath = .error (.missing text)) ∧ config = [] := by
  unfold tableAt at h
  split at h
  next text hread => exact .inl ⟨text, hread, h⟩
  next => cases h
  next text hread =>
    cases h
    exact .inr ⟨⟨text, hread⟩, rfl⟩
  next => cases h

/-- Settings without a configuration file leave the database where the environment has it. -/
theorem database_of_empty (h : ofTable [] env = .ok settings) : settings.database = none := by
  obtain ⟨_, _, h⟩ := bind_eq_ok.mp h
  obtain ⟨_, _, h⟩ := bind_eq_ok.mp h
  obtain ⟨_, _, h⟩ := bind_eq_ok.mp h
  obtain ⟨database, hdatabase, hend⟩ := bind_eq_ok.mp h
  cases hend
  cases hdatabase
  rfl

/-- A configuration file that has just been written gives settings with its currency, wherever
others have been loaded before. -/
theorem load_new (hconfig : env.configPath = .ok configPath) {old : Settings}
    (hold : load files env = .ok old) {currency : Currency} {text : String}
    (htext : readTable text = .ok (newTable (some currency.code)))
    (hread : final.read configPath = .ok (.text text)) :
    ∃ level, load final env = .ok ⟨currency, .any, level, none⟩ := by
  obtain ⟨_, _, hold⟩ := (load_eq_ok hconfig).mp hold
  obtain ⟨level, hlevel⟩ := exists_ofTable hold (isNewFor_newTable currency)
  exact ⟨level, (load_eq_ok hconfig).mpr ⟨_, (tableAt_of_read hread).trans htext, hlevel⟩⟩

/-- Commands on a database leave the settings as they are. -/
theorem load_store {path : Path} {place : Place} {l : Ledger} (hholds : files.Holds path place l)
    (hload : load files env = .ok settings) (final : Ledger) :
    load (files.store path final) env = .ok settings := by
  obtain ⟨configPath, hconfig, _⟩ := Outcome.bind_eq_ok.mp hload
  obtain ⟨config, htable, hsettings⟩ := (load_eq_ok hconfig).mp hload
  refine (load_eq_ok hconfig).mpr ⟨config, ?_, hsettings⟩
  rcases hholds.look_store final configPath with hsame | hledger
  · rw [← htable]
    unfold tableAt Files.read
    rw [hsame]
  · rw [tableAt, Files.read_eq_ok.mpr hledger] at htable
    cases htable

end Settings

end Allowance
