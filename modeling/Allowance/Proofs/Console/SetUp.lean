import Allowance.Console.SetUp
import Allowance.Proofs.Console.Program
import Allowance.Proofs.Settings

/-!
# What a set-up leaves

A set-up is a sequence of steps on files, any of which may end it. Its outcomes are described by two
conditions on the files that it leaves: one for success, and one for each other ending.
-/

namespace Allowance.Console

open Files

/-- The text that is written for a new configuration is read again as this configuration. -/
def Conventions.WritesReadably (conventions : Conventions) : Prop :=
  ∀ (currency : Currency) (text : String),
    conventions.writeTable (Settings.newTable (some currency.code)) = .ok text →
      Settings.readTable text = .ok (Settings.newTable (some currency.code))

namespace SetUp

variable {α β : Type}

/-! ## Steps on files -/

/-- One condition for success, and one for every other ending. -/
def Settles (done : α → Files → Prop) (ended : Ending → Files → Prop) :
    Except Ending α × Progress → Prop
  | (.ok a, progress) => done a progress.files
  | (.error ending, progress) => ended ending progress.files

/-- Taken from these files the steps meet the conditions, whatever has been displayed so far. -/
def Leads (x : SetUp α) (files : Files) (done : α → Files → Prop)
    (ended : Ending → Files → Prop) : Prop :=
  ∀ lines, Settles done ended (x.run.run ⟨files, lines⟩)

variable {x : SetUp α} {files : Files} {done : α → Files → Prop} {ended : Ending → Files → Prop}
  {path : Path}

theorem leads_bind {f : α → SetUp β} {after : β → Files → Prop}
    (h : x.Leads files (fun a middle => (f a).Leads middle after ended) ended) :
    (x >>= f).Leads files after ended := by
  intro lines
  have hfirst := h lines
  rw [ExceptT.run_bind, StateT.run_bind]
  cases hx : x.run.run ⟨files, lines⟩ with
  | mk result progress =>
      rw [hx] at hfirst
      cases result with
      | ok a => exact hfirst progress.lines
      | error ending => exact hfirst

theorem leads_pure {a : α} (h : done a files) : (pure a : SetUp α).Leads files done ended :=
  fun _ => h

/-- Steps may look at the files and at what has been displayed so far. -/
theorem leads_get_bind {f : Progress → SetUp α}
    (h : ∀ lines, (f ⟨files, lines⟩).Leads files done ended) :
    (get >>= f : SetUp α).Leads files done ended :=
  fun lines => h lines lines

theorem leads_say {line : String} {done : Unit → Files → Prop} (h : done () files) :
    (say line).Leads files done ended :=
  fun _ => h

theorem leads_throw {ending : Ending} (h : ended ending files) :
    (throw ending : SetUp α).Leads files done ended :=
  fun _ => h

theorem report?_ne_zero {why : Failure} {status : Nat} {line : String}
    (h : report? why = some (status, line)) : status ≠ 0 := by
  unfold report? at h
  split at h
  next =>
    cases h
    exact Nat.one_ne_zero
  next => exact Console.report?_ne_zero h

/-- A failure ends the command with a status that tells so. -/
theorem leads_fail {why : Failure} (h : ∀ ending : Ending, ending.code ≠ 0 → ended ending files) :
    (fail why : SetUp α).Leads files done ended := by
  unfold fail
  split
  next status line hreport =>
    exact leads_bind (leads_say (leads_throw (h (.status status) (report?_ne_zero hreport))))
  next => exact leads_throw (h (.crash why) Nat.one_ne_zero)

theorem leads_attempt {result : Except Failure α} (hdone : ∀ a, result = .ok a → done a files)
    (hended : ∀ ending : Ending, ending.code ≠ 0 → ended ending files) :
    (attempt result).Leads files done ended := by
  cases result with
  | ok a => exact leads_pure (hdone a rfl)
  | error why => exact leads_fail hended

theorem leads_hasEntry {done : Bool → Files → Prop}
    (hdone : ∀ found, files.hasEntry path = .ok found → done found files)
    (hended : ∀ ending : Ending, ending.code ≠ 0 → ended ending files) :
    (SetUp.hasEntry path).Leads files done ended := by
  unfold SetUp.hasEntry
  refine leads_get_bind fun lines => ?_
  dsimp only
  split
  next found hfound => exact leads_pure (hdone found hfound)
  next fault _ => exact leads_fail hended

/-- The outcome of an operation on files is reported once the files have been replaced. -/
theorem leads_replaced {result : Except Failure Unit} {final : Files} {done : Unit → Files → Prop}
    (hdone : result = .ok () → done () final)
    (hended : ∀ (ending : Ending) final, ending.code ≠ 0 → ended ending final)
    (lines : List Display) :
    Settles done ended ((attempt result).run.run ⟨final, lines⟩) :=
  leads_attempt (fun _ => hdone) (fun ending => hended ending final) lines

theorem leads_change {operation : Files → Files × Except FileFault Unit}
    {done : Unit → Files → Prop}
    (hdone : ∀ final, operation files = (final, .ok ()) → done () final)
    (hended : ∀ (ending : Ending) final, ending.code ≠ 0 → ended ending final) :
    (change operation).Leads files done ended := by
  intro lines
  change Settles done ended
    ((attempt ((operation files).2.mapError .file)).run.run ⟨(operation files).1, lines⟩)
  refine leads_replaced (fun hresult => hdone _ (Prod.ext rfl ?_)) hended lines
  cases houtcome : (operation files).2 with
  | ok => rfl
  | error fault =>
      rw [houtcome] at hresult
      cases hresult

theorem leads_prepare {currency : Currency} {done : Unit → Files → Prop}
    (hdone : ∀ final, files.prepare path currency = (final, .ok ()) → done () final)
    (hended : ∀ (ending : Ending) final, ending.code ≠ 0 → ended ending final) :
    (SetUp.prepare path currency).Leads files done ended := by
  intro lines
  change Settles done ended ((attempt (files.prepare path currency).2).run.run
    ⟨(files.prepare path currency).1, lines⟩)
  exact leads_replaced (fun hresult => hdone _ (Prod.ext rfl hresult)) hended lines

theorem leads_mono {after : α → Files → Prop} (h : x.Leads files done ended)
    (hafter : ∀ a final, done a final → after a final) : x.Leads files after ended := by
  intro lines
  have hsettles := h lines
  revert hsettles
  cases x.run.run ⟨files, lines⟩ with
  | mk result progress =>
      cases result with
      | ok a => exact hafter a progress.files
      | error ending => exact id

theorem Leads.settles (h : x.Leads files done ended) (lines : List Display) :
    Settles done ended (x.run.run ⟨files, lines⟩) :=
  h lines

-- Texts that a set-up displays would be evaluated if this condition were looked into.
attribute [irreducible] Leads

/-! ## The set-up -/

/-- What a set-up relies on: a tree of files, and plain paths to a database in a file and to a
configuration file, which is neither this database nor above it. -/
structure Fits (files : Files) (path configPath : Path) : Prop where
  tree : files.IsTree
  plain : path.IsPlain
  configPlain : configPath.IsPlain
  ne_memory : path ≠ memory
  apart : ¬ files.goal configPath <+: files.goal path

theorem Fits.ne_goal {configPath : Path} (h : Fits files path configPath) :
    files.goal path ≠ files.goal configPath :=
  fun heq => h.apart (heq ▸ List.prefix_rfl)

/-- How a set-up has dealt with the configuration file: one that is forced has replaced it, any
other one has written it only if there was none beside the new database. -/
inductive Configured (files final : Files) (path configPath : Path) (currency : Currency) :
    Bool → Prop where
  | replaced {text : String}
      (htext : Settings.readTable text = .ok (Settings.newTable (some currency.code)))
      (hread : final.read configPath = .ok (.text text)) :
      Configured files final path configPath currency true
  | created {text : String} {middle : Files}
      (hgains : files.Gains middle path (.ledger (Ledger.empty currency)))
      (hnone : middle.hasEntry configPath = .ok false)
      (htext : Settings.readTable text = .ok (Settings.newTable (some currency.code)))
      (hread : final.read configPath = .ok (.text text)) :
      Configured files final path configPath currency false
  | kept (hgains : files.Gains final path (.ledger (Ledger.empty currency)))
      (hfound : final.hasEntry configPath = .ok true) :
      Configured files final path configPath currency false

theorem leads_configure {conventions : Conventions} (hwrites : conventions.WritesReadably)
    {currency : Currency} {done : Unit → Files → Prop}
    (hdone : ∀ text final,
      Settings.readTable text = .ok (Settings.newTable (some currency.code)) →
        files.addText path text = (final, .ok ()) → done () final) :
    (configure conventions path currency).Leads files done fun ending _ => ending.code ≠ 0 := by
  unfold configure
  split
  next text htext =>
    exact leads_change (fun final hadded => hdone text final (hwrites currency text htext) hadded)
      fun _ _ h => h
  next why _ => exact leads_bind (leads_change (fun _ _ => leads_fail fun _ h => h) fun _ _ h => h)

variable {conventions : Conventions} {configPath : Path} {currency : Currency} {force : Bool}

/-- A configuration file that is written beside a new database leaves the database alone. -/
theorem configured_of_addText {middle prepared final : Files} {text : String} {found : Bool}
    (h : Fits files path configPath) (hstart : prepared.start = files.start)
    (hgains : middle.Gains prepared path (.ledger (Ledger.empty currency)))
    (hholds : prepared.Holds path (files.goal path) (Ledger.empty currency))
    (hsame : force = false → middle = files) (hfound : prepared.hasEntry configPath = .ok found)
    (hwrites : force = false → found = false)
    (htext : Settings.readTable text = .ok (Settings.newTable (some currency.code)))
    (hadded : prepared.addText configPath text = (final, .ok ())) :
    final.Holds path (files.goal path) (Ledger.empty currency) ∧
      Configured files final path configPath currency force := by
  have hconfig := gains_of_addText h.configPlain hadded
  refine ⟨hconfig.holds hholds (goal_congr hstart configPath ▸ h.ne_goal), ?_⟩
  cases force with
  | true => exact .replaced htext hconfig.read_eq
  | false =>
      obtain rfl := hsame rfl
      rw [hwrites rfl] at hfound
      exact .created hgains hfound htext hconfig.read_eq

/-- A set-up that ends with success has left a new database and a configuration file. -/
theorem leads_perform (hwrites : conventions.WritesReadably) (h : Fits files path configPath)
    (habsent : force = false → files.hasEntry path = .ok false) :
    (perform conventions path configPath currency force).Leads files
      (fun _ final => final.Holds path (files.goal path) (Ledger.empty currency) ∧
        Configured files final path configPath currency force)
      fun ending _ => ending.code ≠ 0 := by
  unfold perform
  refine leads_bind (leads_hasEntry (fun found hfound => ?_) fun _ hcode => hcode)
  extract_lets finish rest
  have hrest : ∀ middle, middle.start = files.start → middle.entry? (files.goal path) = none →
      (force = false → middle = files) → (rest ()).Leads middle
        (fun _ final => final.Holds path (files.goal path) (Ledger.empty currency) ∧
          Configured files final path configPath currency force)
        fun ending _ => ending.code ≠ 0 := by
    intro middle hstart hnone hsame
    rw [← goal_congr hstart] at hnone
    refine leads_bind (leads_say (leads_bind (leads_prepare (fun prepared hprepare => ?_)
      fun _ _ hcode => hcode)))
    obtain ⟨hgains, hholds⟩ := gains_of_prepare h.plain h.ne_memory hnone hprepare
    rw [goal_congr hstart] at hholds
    refine leads_bind (leads_say (leads_bind (leads_hasEntry (fun configFound hexists => ?_)
      fun _ hcode => hcode)))
    split
    next hmissing =>
      refine leads_bind (leads_say (leads_bind (leads_configure hwrites
        fun text final htext hadded => ?_)))
      refine leads_bind (leads_say (leads_bind (leads_say (leads_bind (leads_say (leads_say ?_))))))
      refine configured_of_addText h (hgains.start_eq.trans hstart) hgains hholds hsame hexists
        (fun hforce => ?_) htext hadded
      simpa [hforce] using hmissing
    next hkeeps =>
      refine leads_bind (leads_say (leads_bind (leads_say (leads_say ⟨hholds, ?_⟩))))
      obtain ⟨rfl, rfl⟩ : force = false ∧ configFound = true := by simpa using hkeeps
      obtain rfl := hsame rfl
      exact .kept hgains hexists
  split
  next hremoves =>
    obtain ⟨rfl, rfl⟩ : force = true ∧ found = true := by simpa using hremoves
    refine leads_bind (leads_change (fun middle hremoved => ?_) fun _ _ hcode => hcode)
    unfold Files.attempt at hremoved
    split at hremoved
    next changed hchanged =>
      cases hremoved
      exact hrest _ (start_of_remove hchanged) (entry?_goal_of_remove h.plain hchanged)
        fun hforce => Bool.noConfusion hforce
    next => cases hremoved
  next hleaves =>
    refine hrest files rfl (h.tree.entry?_goal_of_hasEntry h.plain ?_) fun _ => rfl
    cases force with
    | true =>
        obtain rfl : found = false := by simpa using hleaves
        exact hfound
    | false => exact habsent rfl

/-- A database that is there is not replaced unless this is asked for. -/
theorem leads_requireAbsent {done : Unit → Files → Prop} {ended : Ending → Files → Prop}
    (hdone : files.hasEntry path = .ok false → done () files)
    (hended : ∀ ending : Ending, ending.code ≠ 0 → ended ending files) :
    (requireAbsent path).Leads files done ended := by
  unfold requireAbsent
  refine leads_bind (leads_hasEntry (fun found hfound => ?_) hended)
  split
  next =>
    exact leads_bind (leads_say (leads_bind (leads_say (leads_bind (leads_say
      (leads_throw (hended (.status 1) Nat.one_ne_zero)))))))
  next hnone =>
    refine leads_pure (hdone ?_)
    rw [hfound, Bool.eq_false_of_not_eq_true hnone]

/-- What a set-up with success leaves: a new database in the currency of a code in any case, and a
configuration file. -/
def Completes (files final : Files) (path configPath : Path) (code : String)
    (force : Bool) : Prop :=
  ∃ currency : Currency, currency.code = Text.upper code ∧
    final.Holds path (files.goal path) (Ledger.empty currency) ∧
    Configured files final path configPath currency force

variable {settings : Settings} {env : Environment} {code : Option String}

theorem leads_setUp (hwrites : conventions.WritesReadably)
    (hpath : settings.databasePath env = .ok path)
    (hconfig : env.configPath = .ok configPath) (h : Fits files path configPath) :
    (setUp conventions settings env force code).Leads files
      (fun _ final => Completes files final path configPath
        ((Environment.given code).getD settings.currency.code) force)
      fun ending _ => ending.code ≠ 0 := by
  unfold setUp
  refine leads_bind (leads_attempt (fun currency hcurrency => ?_) fun _ hcode => hcode)
  refine leads_bind (leads_attempt (fun found hfound => ?_) fun _ hcode => hcode)
  obtain rfl : path = found := Except.ok.inj (hpath.symm.trans hfound)
  refine leads_bind (leads_attempt (fun found hfound => ?_) fun _ hcode => hcode)
  obtain rfl : configPath = found := Except.ok.inj (hconfig.symm.trans hfound)
  extract_lets rest
  have hrest (habsent : force = false → files.hasEntry path = .ok false) :
      (rest ()).Leads files (fun _ final => Completes files final path configPath
        ((Environment.given code).getD settings.currency.code) force)
        fun ending _ => ending.code ≠ 0 :=
    leads_mono (leads_perform hwrites h habsent) fun _ _ hdone =>
      ⟨currency, Currency.code_of_ofCode_upper hcurrency, hdone⟩
  cases force with
  | true => exact hrest nofun
  | false =>
      exact leads_bind (leads_requireAbsent (fun habsent => hrest fun _ => habsent)
        fun _ hcode => hcode)

/-- A set-up that is not forced leaves everything as it is where it finds a database. -/
theorem leads_setUp_found (hpath : settings.databasePath env = .ok path)
    (hfound : files.hasEntry path = .ok true) :
    (setUp conventions settings env false code).Leads files (fun _ _ => False)
      fun ending final => ending.code ≠ 0 ∧ final = files := by
  have hended : ∀ ending : Ending, ending.code ≠ 0 → ending.code ≠ 0 ∧ files = files :=
    fun _ hcode => ⟨hcode, rfl⟩
  unfold setUp
  refine leads_bind (leads_attempt (fun currency _ => ?_) hended)
  refine leads_bind (leads_attempt (fun again hagain => ?_) hended)
  obtain rfl : path = again := Except.ok.inj (hpath.symm.trans hagain)
  refine leads_bind (leads_attempt (fun _ _ => ?_) hended)
  refine leads_bind (leads_requireAbsent (fun habsent => ?_) hended)
  cases hfound.symm.trans habsent

end SetUp

end Allowance.Console
