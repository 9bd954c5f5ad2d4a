import Allowance.Proofs.Console.Commitment
import Allowance.Proofs.Console.SetUp
import Allowance.Proofs.Terminal

/-!
# Commands after a set-up

A set-up takes the place of the database from the configuration as it is, and may then replace the
configuration. Every later command takes the place from the configuration that it finds.
-/

namespace Allowance.Console

open Files SetUp

/-! ## Settings after a set-up -/

/-- After a set-up with success there are settings. Only one that was forced has forgotten the place
that the configuration had for the database. -/
theorem SetUp.Configured.load {files final : Files} {path configPath : Path} {currency : Currency}
    {force : Bool} {env : Environment} {settings : Settings}
    (h : Configured files final path configPath currency force) (hfits : Fits files path configPath)
    (hconfig : env.configPath = .ok configPath) (hload : Settings.load files env = .ok settings) :
    ∃ new, Settings.load final env = .ok new ∧
      new.database = if force then none else settings.database := by
  have hne : files.goal configPath ≠ files.goal path := Ne.symm hfits.ne_goal
  obtain ⟨config, htable, hsettings⟩ := (Settings.load_eq_ok hconfig).mp hload
  cases h with
  | replaced htext hread =>
      obtain ⟨level, hnew⟩ := Settings.load_new hconfig hload htext hread
      exact ⟨_, hnew, rfl⟩
  | created hgains hnone htext hread =>
      obtain ⟨level, hnew⟩ := Settings.load_new hconfig hload htext hread
      refine ⟨_, hnew, ?_⟩
      rcases Settings.tableAt_cases htable with ⟨text, hold, _⟩ | ⟨_, rfl⟩
      · have hlook := hgains.look_eq_ok_of_ne hfits.configPlain hne (read_eq_ok.mp hold)
        cases (hasEntry_of_look hfits.configPlain.2 hlook).symm.trans hnone
      · exact (Settings.database_of_empty hsettings).symm
  | kept hgains hfound =>
      refine ⟨settings, (Settings.load_eq_ok hconfig).mpr ⟨config, ?_, hsettings⟩, rfl⟩
      rcases Settings.tableAt_cases htable with ⟨text, hold, hread⟩ | ⟨⟨text, hmissing⟩, _⟩
      · have hlook := hgains.look_eq_ok_of_ne hfits.configPlain hne (read_eq_ok.mp hold)
        exact (Settings.tableAt_of_read (read_eq_ok.mpr hlook)).trans hread
      · -- Preparing the database has added nothing where the configuration file would be.
        obtain ⟨entry, hlook⟩ := look_of_hasEntry hfound
        obtain ⟨place, hplace, hentry⟩ := look_eq_ok.mp hlook
        obtain rfl := eq_goal_of_place hfits.configPlain hplace
        rw [goal_congr hgains.start_eq, hgains.entry?_eq_of_not_above hfits.apart,
          hfits.tree.entry?_goal_of_missing hfits.configPlain hmissing] at hentry
        cases hentry

-- Command lines and configuration files can be read by evaluation.
deriving instance DecidableEq for SearchOptions, Command, Settings

namespace Session

variable {s : Session} {settings : Settings} {path : Path} {place : Place} {currency : Currency}
  {line : List String}

theorem run_of_reads {command : Command} (hread : s.Reads line command)
    (hload : Settings.load s.files s.environment = .ok settings) :
    s.run line = s.runCommand settings command := by
  obtain ⟨entrance, rest, henter, hread⟩ := hread
  rw [run, henter]
  simp only [hload, hread]

theorem files_leaving (s : Session) (outcome : Outcome) :
    (s.leaving outcome).files = outcome.files :=
  rfl

theorem runCommand_setUp (s : Session) (settings : Settings) (force : Bool)
    (code : Option String) :
    s.runCommand settings (.setUp force code) = s.runSetUp settings force code :=
  rfl

/-- What holds of the steps of a set-up holds of its outcome. -/
theorem runSetUp_cases {force : Bool} {code : Option String} {done : Unit → Files → Prop}
    {ended : Ending → Files → Prop}
    (h : (setUp s.conventions settings s.environment force code).Leads s.files done ended) :
    done () (s.runSetUp settings force code).files ∨
      ended (s.runSetUp settings force code).ending (s.runSetUp settings force code).files := by
  unfold runSetUp
  generalize setUp s.conventions settings s.environment force code = x at h ⊢
  have hsettles := h.settles []
  revert hsettles
  cases x.run.run ⟨s.files, []⟩ with
  | mk result progress =>
      cases result with
      | ok => exact .inl
      | error ending => exact .inr

theorem files_runSetUp_found {code : Option String}
    (hpath : settings.databasePath s.environment = .ok path)
    (hfound : s.files.hasEntry path = .ok true) :
    (s.runSetUp settings false code).files = s.files := by
  have hended : (s.runSetUp settings false code).ending.code ≠ 0 ∧
      (s.runSetUp settings false code).files = s.files :=
    (runSetUp_cases (leads_setUp_found hpath hfound)).resolve_left id
  exact hended.2

/-! ## Serving a ledger -/

/-- The commands of a session work on a ledger in a currency that started empty. -/
structure Serves (s : Session) (settings : Settings) (path : Path) (place : Place)
    (currency : Currency) : Prop where
  load_eq : Settings.load s.files s.environment = .ok settings
  path_eq : settings.databasePath s.environment = .ok path
  nul : path.holdsNul = false
  holds : ∃ l, (Ledger.empty currency).Later l ∧ s.files.Holds path place l

theorem Serves.exists_opens (h : s.Serves settings path place currency) :
    ∃ l, s.Opens path l ∧ l.currency = currency := by
  obtain ⟨l, hlater, hholds⟩ := h.holds
  exact ⟨l, ⟨settings, h.load_eq, h.path_eq, hholds.hasEntry_eq h.nul,
    ledger_eq_ok.mpr ⟨place, hholds⟩⟩, hlater.currency_eq (.empty currency)⟩

/-- A session goes on serving its ledger after every line that is not a forced set-up. -/
theorem Serves.leaving (h : s.Serves settings path place currency)
    (hline : ∀ code, ¬ s.Reads line (.setUp true code)) :
    (s.leaving (s.run line)).Serves settings path place currency := by
  obtain ⟨l, hlater, hholds⟩ := h.holds
  have hsame (hfiles : (s.run line).files = s.files) :
      (s.leaving (s.run line)).Serves settings path place currency := by
    rw [Session.leaving, hfiles]
    exact h
  by_cases hsetUp : ∃ code, s.Reads line (.setUp false code)
  · obtain ⟨code, hread⟩ := hsetUp
    refine hsame ?_
    rw [run_of_reads hread h.load_eq, runCommand_setUp]
    exact files_runSetUp_found h.path_eq (hholds.hasEntry_eq h.nul)
  · have hnone : ∀ force code, ¬ s.Reads line (.setUp force code) := by
      intro force code hread
      cases force with
      | true => exact hline code hread
      | false => exact hsetUp ⟨code, hread⟩
    rcases s.run_cases hnone with hfiles | ⟨command, policy, found, opened, _, hopens, hfiles, _⟩
    · exact hsame hfiles
    · -- The ledger that the command has worked on is the one that is served.
      obtain ⟨again, hload, hpath, _, hledger⟩ := hopens
      obtain rfl : settings = again := Except.ok.inj (h.load_eq.symm.trans hload)
      obtain rfl : path = found := Except.ok.inj (h.path_eq.symm.trans hpath)
      obtain rfl : l = opened :=
        Except.ok.inj ((ledger_eq_ok.mpr ⟨place, hholds⟩).symm.trans hledger)
      rw [Session.leaving, hfiles]
      exact ⟨Settings.load_store hholds h.load_eq _, h.path_eq, h.nul, _,
        hlater.trans (Program.later_run _ l), hholds.store _⟩

theorem Serves.afterAll (h : s.Serves settings path place currency) {lines : List (List String)}
    (hlines : ∀ line ∈ lines, ∀ code, ¬ s.Reads line (.setUp true code)) :
    (s.afterAll lines).Serves settings path place currency := by
  induction lines generalizing s with
  | nil => exact h
  | cons line rest ih =>
      exact ih (h.leaving (hlines line List.mem_cons_self)) fun other hother =>
        hlines other (List.mem_cons_of_mem line hother)

/-! ## After a set-up -/

variable {configPath : Path} {force : Bool} {code : Option String}

/-- A set-up with success leaves a new ledger, and commands that find it there or where the
environment has the database. -/
theorem exists_serves (hwrites : s.conventions.WritesReadably)
    (hread : s.Reads line (.setUp force code))
    (hload : Settings.load s.files s.environment = .ok settings)
    (hpath : settings.databasePath s.environment = .ok path)
    (hconfig : s.environment.configPath = .ok configPath)
    (hfits : Fits s.files path configPath) (hended : (s.run line).ending.code = 0) :
    ∃ (currency : Currency) (new : Settings),
      currency.code = Text.upper ((Environment.given code).getD settings.currency.code) ∧
      (s.leaving (s.run line)).files.Holds path (s.files.goal path) (Ledger.empty currency) ∧
      Settings.load (s.leaving (s.run line)).files s.environment = .ok new ∧
      new.databasePath s.environment =
        if force then s.environment.databasePath else .ok path := by
  rw [run_of_reads hread hload, runCommand_setUp] at hended
  rw [run_of_reads hread hload, runCommand_setUp, files_leaving]
  have hleads : (setUp s.conventions settings s.environment force code).Leads s.files
      (fun _ final => Completes s.files final path configPath
        ((Environment.given code).getD settings.currency.code) force)
      fun ending _ => ending.code ≠ 0 :=
    leads_setUp hwrites hpath hconfig hfits
  rcases runSetUp_cases hleads with hcompletes | hfailed
  · obtain ⟨currency, hcode, hholds, hconfigured⟩ := hcompletes
    obtain ⟨new, hnew, hdatabase⟩ := hconfigured.load hfits hconfig hload
    refine ⟨currency, new, hcode, hholds, hnew, ?_⟩
    rw [Settings.databasePath, hdatabase]
    cases force with
    | true => rfl
    | false => exact hpath
  · exact absurd hended hfailed

/-- After a set-up with success there is a new ledger in the currency that was asked for, or else in
that of the settings. The commands that follow open it just if the set-up was not forced or the
environment has the database there. Then they go on opening it, in this currency, until another
set-up is forced. This holds of all conventions under which a new configuration file can be read. -/
theorem opens_after_setUp (hwrites : s.conventions.WritesReadably)
    (hread : s.Reads line (.setUp force code))
    (hload : Settings.load s.files s.environment = .ok settings)
    (hpath : settings.databasePath s.environment = .ok path)
    (hconfig : s.environment.configPath = .ok configPath)
    (hfits : Fits s.files path configPath) (hended : (s.run line).ending.code = 0) :
    let after := s.leaving (s.run line)
    ∃ currency : Currency,
      currency.code = Text.upper ((Environment.given code).getD settings.currency.code) ∧
      after.files.ledger path = .ok (Ledger.empty currency) ∧
      ((∃ l, after.Opens path l) ↔ (force = true → s.environment.databasePath = .ok path)) ∧
      ((force = true → s.environment.databasePath = .ok path) →
        ∀ lines, (∀ line ∈ lines, ∀ code, ¬ s.Reads line (.setUp true code)) →
          ∃ l, (after.afterAll lines).Opens path l ∧ l.currency = currency) := by
  intro after
  obtain ⟨currency, new, hcode, hholds, hnew, hplace⟩ :=
    exists_serves hwrites hread hload hpath hconfig hfits hended
  have hserves (hagrees : force = true → s.environment.databasePath = .ok path) :
      after.Serves new path (s.files.goal path) currency := by
    refine ⟨hnew, ?_, hfits.plain.2, Ledger.empty currency, .refl _, hholds⟩
    cases force with
    | true => exact hplace.trans (hagrees rfl)
    | false => exact hplace
  refine ⟨currency, hcode, ledger_eq_ok.mpr ⟨_, hholds⟩, ⟨?_, fun hagrees => ?_⟩,
    fun hagrees lines hlines => ((hserves hagrees).afterAll hlines).exists_opens⟩
  · rintro ⟨l, again, hagain, hopened, _⟩ rfl
    obtain rfl : new = again := Except.ok.inj (hnew.symm.trans hagain)
    exact hplace.symm.trans hopened
  · obtain ⟨l, hopens, _⟩ := (hserves hagrees).exists_opens
    exact ⟨l, hopens⟩

/-- A user whose configuration has its own place for the database, which is not there yet. -/
def overriding : Session where
  files := ⟨["home", "user"], [(["home", "user", "config"], .folder),
    (["home", "user", "config", "budgetmgr"], .folder),
    (["home", "user", "config", "budgetmgr", "config.toml"],
      .file (.text "db_path = \"custom.db\"\n"))]⟩
  environment := prepared.environment
  conventions := prepared.conventions
  today := prepared.today

/-- The places of the database and of the configuration file of this user. -/
theorem fits_overriding :
    Fits overriding.files ⟨"", ["custom.db"]⟩ ⟨"", ["config", "budgetmgr", "config.toml"]⟩ where
  tree := isTree_of_entries (by
    rintro row (_ | ⟨_, _ | ⟨_, _ | ⟨_, ⟨⟩⟩⟩⟩) <;> rfl)
  plain := by decide +kernel
  configPlain := by decide +kernel
  ne_memory := by decide +kernel
  apart := by decide +kernel

theorem load_overriding : Settings.load overriding.files overriding.environment =
    .ok ⟨.gbp, .any, .warning, some ⟨"", ["custom.db"]⟩⟩ := by
  have hloaded : ∃ settings,
      Settings.load overriding.files overriding.environment = .ok settings := by
    decide +kernel
  have hsettings : ∀ settings,
      Settings.load overriding.files overriding.environment = .ok settings →
        settings = ⟨.gbp, .any, .warning, some ⟨"", ["custom.db"]⟩⟩ := by
    decide +kernel
  obtain ⟨settings, hload⟩ := hloaded
  rw [hload, hsettings settings hload]

theorem opens_overriding :
    (overriding.run ["init", "--currency", "eur"]).ending.code = 0 ∧ ∃ l,
      ((overriding.leaving (overriding.run ["init", "--currency", "eur"])).afterAll
        [["month", "show"], ["init"]]).Opens ⟨"", ["custom.db"]⟩ l ∧ l.currency = .eur := by
  have hread : overriding.Reads ["init", "--currency", "eur"] (.setUp false (some "eur")) :=
    ⟨.setUp, ["--currency", "eur"], by decide +kernel, by decide +kernel⟩
  have hended : (overriding.run ["init", "--currency", "eur"]).ending.code = 0 := by
    decide +kernel
  have hlines : ∀ line ∈ [["month", "show"], ["init"]],
      ∀ found, overriding.conventions.enter line = .ok found →
        ∀ command, overriding.conventions.read found.1 found.2 = .ok command →
          command = .showMonth none ∨ command = .setUp false none := by
    decide +kernel
  obtain ⟨currency, hcode, _, _, hfollowing⟩ :=
    opens_after_setUp (Terminal.writesReadably 2024) hread load_overriding rfl rfl
      fits_overriding hended
  obtain ⟨l, hopens, hcurrency⟩ := hfollowing nofun [["month", "show"], ["init"]] (by
    rintro line hline code ⟨entrance, rest, henter, hread⟩
    rcases hlines line hline _ henter _ hread with heq | heq <;> cases heq)
  have heur : Text.upper ((Environment.given (some "eur")).getD Currency.gbp.code) = "EUR" := by
    decide +kernel
  refine ⟨hended, l, hopens, ?_⟩
  rw [heur] at hcode
  rw [hcurrency]
  cases currency <;> simp [Currency.code] at hcode ⊢

/-- A forced set-up forgets the place of the database that it has just prepared. -/
theorem not_opens_forcedSetUp :
    let after := overriding.leaving (overriding.run ["init", "--force"])
    (overriding.run ["init", "--force"]).ending.code = 0 ∧
      after.files.hasEntry ⟨"", ["custom.db"]⟩ = .ok true ∧ (∀ path l, ¬ after.Opens path l) ∧
      (after.run ["month", "list"]).ending.code ≠ 0 := by
  intro after
  refine ⟨by decide +kernel, by decide +kernel, ?_, by decide +kernel⟩
  rintro path l ⟨settings, hload, hpath, hfound, _⟩
  have hnone : ∀ settings, Settings.load after.files after.environment = .ok settings →
      ∀ path, settings.databasePath after.environment = .ok path →
        after.files.hasEntry path ≠ .ok true := by
    decide +kernel
  exact hnone settings hload path hpath hfound

end Session

end Allowance.Console
