import Allowance.Console.Session
import Allowance.Proofs.Console.Program
import Allowance.Proofs.Files.Tree
import Allowance.Proofs.Ledger.Recomputation
import Allowance.Terminal.Conventions

/-!
# What a failed command leaves behind

A command that fails leaves the ledger as it was, or with the one month added that the command
opened before it failed. That month is as new: it has its days and nothing else.
-/

namespace Allowance.Console

open Ledger (Operation Request)
open Program

/-! ## The month of a command -/

/-- The typed month, or the current one; none if it cannot be read. -/
def typedMonth? (today : Date) : Option String → Option (Int × Int)
  | none => some (today.year, today.month)
  | some text =>
    match Calendar.parseMonth text with
    | .ok (year, month) => some (year, month)
    | .error _ => none

/-- The typed date, or today; none if it cannot be read. -/
def typedDay? (occasion : Occasion) : Option String → Option Date
  | none => some occasion.today
  | some text =>
    match Calendar.parseDate occasion.reader text with
    | .ok date => some date
    | .error _ => none

/-- The command that adds a spend, once its date is known. -/
def addSpendOn (ctx : Context) (title typed : String) (date : Date) (typeId : Int)
    (notes : String) : Program Unit := do
  let _ ← request (.openMonth date.year date.month)
  let dayId ← request (.dayOn date)
  let cost ← ctx.amount typed
  let id ← request (.addSpend ⟨dayId, title, cost, typeId, notes, ctx.policy⟩)
  say (Markup.success "Spend added:")
  say ("  ID: " ++ shown id)
  say ("  Date: " ++ date.text)
  say ("  Title: " ++ title)
  say ("  Cost: " ++ ctx.money cost)

/-- A command whose date cannot be read does nothing else. -/
theorem refuseDate_bind {α β : Type} (why : Failure) (f : α → Program β) :
    (refuseDate why >>= f) = refuseDate why := by
  cases why <;> rfl

/-- The command that adds a spend goes on with its date or, without one, ends at once. -/
theorem addSpend_cases (ctx : Context) (reader : Calendar.DateReader) (title typed : String)
    (date : Option String) (typeId : Int) (notes : String) :
    (∃ day, typedDay? ⟨ctx.today, reader⟩ date = some day ∧
      addSpend ctx reader title typed date typeId notes =
        addSpendOn ctx title typed day typeId notes) ∨
    ∃ why, addSpend ctx reader title typed date typeId notes = refuseDate why := by
  cases date with
  | none => exact .inl ⟨ctx.today, rfl, rfl⟩
  | some text =>
      cases hparse : Calendar.parseDate reader text with
      | ok day =>
          refine .inl ⟨day, by rw [typedDay?, hparse], ?_⟩
          rw [addSpend, typedDate?, typedDate, hparse]
          rfl
      | error why =>
          refine .inr ⟨why, ?_⟩
          rw [addSpend, typedDate?, typedDate, hparse]
          change (refuseDate why >>= _) >>= _ = _
          rw [refuseDate_bind, refuseDate_bind]

/-- The month that a command opens. Only commands that show a month or add to one do so. -/
def Command.month? (occasion : Occasion) : Command → Option (Int × Int)
  | .showMonth month => typedMonth? occasion.today month
  | .addIncome _ _ month _ => typedMonth? occasion.today month
  | .addPayment _ _ month _ _ => typedMonth? occasion.today month
  | .addSpend _ _ date _ _ => (typedDay? occasion date).map fun date => (date.year, date.month)
  | _ => none

/-- The requests that a command may make without being done with: those that change nothing, and
the one that opens its month. -/
def Command.MayAsk (command : Command) (occasion : Occasion) (operation : Operation) : Prop :=
  operation.IsReading ∨ ∃ year month, command.month? occasion = some (year, month) ∧
    operation = ⟨.openMonth year month⟩

/-! ## The shapes of the commands -/

section Shapes

variable {allowed : Operation → Prop} {ctx : Context} {reader : Calendar.DateReader}

theorem asks_openMonth {typed : Option String}
    (h : ∀ year month, typedMonth? ctx.today typed = some (year, month) →
      allowed ⟨.openMonth year month⟩) : (ctx.openMonth typed).Asks allowed := by
  unfold Context.openMonth
  cases typed with
  | none => exact asks_request (h _ _ rfl)
  | some text =>
      dsimp only
      split
      next year month hparse =>
        refine asks_request (h _ _ ?_)
        rw [typedMonth?, hparse]
      next => exact asks_giveUp _

theorem asks_refuseDate {α : Type} (why : Failure) :
    (refuseDate why : Program α).Asks allowed := by
  cases why with
  | misuse why => exact asks_bind (asks_say _) fun _ => asks_giveUp _
  | _ => exact asks_leave _

theorem asks_typedDate (text : String) : (typedDate reader text).Asks allowed := by
  unfold typedDate
  split
  · exact asks_done _
  · exact asks_refuseDate _

theorem asks_typedDate? (typed : Option String) : (typedDate? reader typed).Asks allowed := by
  cases typed with
  | none => exact asks_done _
  | some text => exact asks_bind (asks_typedDate text) fun _ => asks_done _

theorem asks_amount (typed : String) : (ctx.amount typed).Asks allowed := by
  unfold Context.amount
  exact asks_attempt _

theorem asks_amount? (typed : Option String) : (ctx.amount? typed).Asks allowed := by
  unfold Context.amount?
  exact asks_attempt _

theorem asks_drawRows (title : String) (columns : List String) (rows : List (List String)) :
    (drawRows title columns rows).Asks allowed := by
  unfold drawRows
  split
  · exact asks_done _
  · exact asks_draw _

theorem asks_dayRow (month : Month) (day : Day) : (dayRow ctx month day).Asks allowed :=
  asks_bind (asks_attempt _) fun _ => asks_done _

theorem asks_printMonth (month : Month) : (printMonth ctx month).Asks allowed := by
  refine asks_bind (asks_attempt _) fun _ => ?_
  refine asks_bind (asks_say _) fun _ => asks_bind (asks_say _) fun _ => asks_bind (asks_say _)
    fun _ => asks_bind (asks_say _) fun _ => asks_bind (asks_say _) fun _ => ?_
  refine asks_bind (asks_drawRows _ _ _) fun _ => asks_bind (asks_drawRows _ _ _) fun _ => ?_
  exact asks_bind (asks_mapM (asks_dayRow month)) fun _ => asks_draw _

theorem asks_typedCriteria (options : SearchOptions) :
    (typedCriteria ctx reader options).Asks allowed :=
  asks_bind (asks_typedDate? _) fun _ => asks_bind (asks_typedDate? _) fun _ =>
    asks_bind (asks_amount? _) fun _ => asks_bind (asks_amount? _) fun _ => asks_done _

theorem asks_recordRow (types : List SpendType) (row : SpendRecord) :
    (recordRow ctx types row).Asks allowed :=
  asks_bind (asks_attempt _) fun _ => asks_done _

theorem asks_intervalRow (greatest : Nat) (interval : Statistics.CostInterval) :
    (intervalRow ctx greatest interval).Asks allowed :=
  asks_bind (asks_insist _) fun _ => asks_done _

theorem asks_drawStatistics (types : List SpendType) (rows : List SpendRecord)
    (first last : Date) (intervals : Int) :
    (drawStatistics ctx types rows first last intervals).Asks allowed := by
  refine asks_bind (asks_insist _) fun _ => asks_bind (asks_draw _) fun _ => ?_
  refine asks_bind (asks_insist _) fun _ => asks_bind (asks_draw _) fun _ => ?_
  refine asks_bind (asks_insist _) fun _ => asks_bind ?_ fun _ => asks_draw _
  exact asks_mapM (asks_intervalRow _)

end Shapes

section Commands

variable {allowed : Operation → Prop} {ctx : Context} {reader : Calendar.DateReader}
  (hread : ∀ {α : Type} {request : Request α}, Operation.IsReading ⟨request⟩ → allowed ⟨request⟩)
include hread

theorem asks_reading {α : Type} {request : Request α} (h : Operation.IsReading ⟨request⟩) :
    (Program.request request).Asks allowed :=
  asks_request (hread h)

theorem asks_showMonth {typed : Option String}
    (hopen : ∀ year month, typedMonth? ctx.today typed = some (year, month) →
      allowed ⟨.openMonth year month⟩) : (showMonth ctx typed).Asks allowed :=
  asks_bind (asks_openMonth hopen) fun _ =>
    asks_bind (asks_reading hread True.intro) asks_printMonth

theorem asks_listMonths : (listMonths ctx).Asks allowed := by
  refine asks_bind (asks_reading hread True.intro) fun months => ?_
  split
  · exact asks_say _
  · exact asks_draw _

theorem asks_listSpendTypes : listSpendTypes.Asks allowed := by
  refine asks_bind (asks_reading hread True.intro) fun types => ?_
  split
  · exact asks_say _
  · exact asks_draw _

theorem asks_search (options : SearchOptions) : (search ctx reader options).Asks allowed := by
  refine asks_bind (asks_typedCriteria options) fun criteria => ?_
  refine asks_bind (asks_reading hread True.intro) fun rows => ?_
  refine asks_bind (asks_reading hread True.intro) fun types => ?_
  split
  · exact asks_say _
  · exact asks_bind (asks_mapM (asks_recordRow types)) fun _ =>
      asks_bind (asks_draw _) fun _ => asks_say _

theorem asks_statistics (after before : Option String) (intervals : Int) :
    (statistics ctx reader after before intervals).Asks allowed := by
  refine asks_bind (asks_typedDate? _) fun first => asks_bind (asks_typedDate? _) fun last => ?_
  refine asks_bind (asks_insist _) fun bounds => ?_
  refine asks_bind (asks_reading hread True.intro) fun rows => ?_
  refine asks_bind (asks_reading hread True.intro) fun types => ?_
  refine asks_bind (asks_say _) fun _ => ?_
  split
  · exact asks_say _
  · exact asks_drawStatistics _ _ _ _ _

theorem changesLast_addSpend {title typed notes : String} {date : Option String} {typeId : Int}
    (hopen : ∀ day, typedDay? ⟨ctx.today, reader⟩ date = some day →
      allowed ⟨.openMonth day.year day.month⟩) :
    (addSpend ctx reader title typed date typeId notes).ChangesLast allowed := by
  rcases addSpend_cases ctx reader title typed date typeId notes with
    ⟨day, hday, heq⟩ | ⟨why, heq⟩
  · rw [heq, addSpendOn]
    refine changesLast_bind (asks_request (hopen day hday)) fun _ => ?_
    refine changesLast_bind (asks_reading hread True.intro) fun dayId => ?_
    refine changesLast_bind (asks_amount _) fun cost => changesLast_request fun id => ?_
    exact succeeds_bind (succeeds_say _) fun _ => succeeds_bind (succeeds_say _) fun _ =>
      succeeds_bind (succeeds_say _) fun _ => succeeds_bind (succeeds_say _) fun _ => succeeds_say _
  · rw [heq]
    exact (asks_refuseDate why).changesLast

end Commands

/-- A command may fail as long as it has only read and opened its month. -/
theorem body_changesLast (command : Command) (policy : CostPolicy) (occasion : Occasion) :
    (body command policy occasion).ChangesLast (command.MayAsk occasion) := by
  have hread {α : Type} {request : Request α} (h : Operation.IsReading ⟨request⟩) :
      command.MayAsk occasion ⟨request⟩ :=
    .inl h
  refine changesLast_bind (asks_reading hread True.intro) fun currency => ?_
  dsimp only
  cases command with
  | setUp force code => exact (asks_done ()).changesLast
  | showMonth typed =>
      exact Asks.changesLast <| asks_showMonth hread fun year month h => .inr ⟨year, month, h, rfl⟩
  | listMonths => exact (asks_listMonths hread).changesLast
  | addIncome title amount typed notes =>
      exact changesLast_bind (asks_openMonth fun year month h => .inr ⟨year, month, h, rfl⟩)
        fun id => changesLast_bind (asks_amount _) fun amount =>
          changesLast_request fun _ => succeeds_say _
  | addPayment title cost typed typeId notes =>
      exact changesLast_bind (asks_openMonth fun year month h => .inr ⟨year, month, h, rfl⟩)
        fun id => changesLast_bind (asks_amount _) fun cost =>
          changesLast_request fun _ => succeeds_say _
  | addSpend title cost date typeId notes =>
      refine changesLast_addSpend hread fun day hday => .inr ⟨_, _, ?_, rfl⟩
      exact Option.map_eq_some_iff.mpr ⟨day, hday, rfl⟩
  | editIncome | editPayment | editSpend =>
      exact changesLast_bind (asks_amount? _) fun _ => changesLast_request fun _ => succeeds_say _
  | removeIncome | removePayment | removeSpend | addSpendType | editSpendType | removeSpendType =>
      exact changesLast_request fun _ => succeeds_say _
  | listSpendTypes => exact (asks_listSpendTypes hread).changesLast
  | search options => exact (asks_search hread options).changesLast
  | statistics after before intervals => exact (asks_statistics hread _ _ _).changesLast

/-! ## A month without entries -/

/-- A ledger is another one with a month added that is open and not yet used: it has the days of the
calendar, no incomes, payments or spends, and all its amounts are zero. -/
def AddsEmptyMonth (l final : Ledger) (year month : Int) : Prop :=
  ∃ (row : Ledger.MonthRow) (days : List Ledger.DayRow) (counters : Ledger.Counters) (m : Month),
    l.findMonth? year month = none ∧ (row.year = year ∧ row.month = month) ∧
    (∀ day ∈ days, day.monthId = row.id) ∧
    final = { l with months := l.months ++ [row], days := l.days ++ days, counters } ∧
    final.handle (.month row.id) = .ok (final.answer m) ∧
    (m.incomes = [] ∧ m.payments = []) ∧
    (m.days.map (·.day) = (List.range row.length).map fun i : Nat => (i : Int) + 1) ∧
    (∀ day ∈ m.days, day.spends = [] ∧ day.saldo = .zero l.precision) ∧
    m.dailyBudget = .zero l.precision ∧ m.totalIncome = .zero l.precision ∧
    m.totalSpend = .zero l.precision ∧ m.result = .zero l.precision

/-- A ledger is as it was, or with the month of a command added. -/
inductive Command.Leaves (command : Command) (occasion : Occasion) (l : Ledger) :
    Ledger → Prop where
  | same : command.Leaves occasion l l
  | opened {year month : Int} {days : Nat} (hmonth : command.month? occasion = some (year, month))
      (hfree : l.findMonth? year month = none)
      (hdays : Calendar.daysInMonth year month = .ok days) :
      command.Leaves occasion l (l.insertMonth year month days)

theorem findMonth?_insertMonth_ne_none (l : Ledger) (year month : Int) (days : Nat) :
    (l.insertMonth year month days).findMonth? year month ≠ none := by
  intro hnone
  have hnew := List.find?_eq_none.mp hnone ⟨l.counters.month + 1, year, month, 0, 0, 0, 0⟩
    (List.mem_append_right _ (List.mem_singleton_self _))
  simp at hnew

theorem Command.Leaves.trans {command : Command} {occasion : Occasion} {a b c : Ledger}
    (hab : command.Leaves occasion a b) (hbc : command.Leaves occasion b c) :
    command.Leaves occasion a c := by
  cases hab with
  | same => exact hbc
  | opened hmonth hfree hdays =>
      cases hbc with
      | same => exact .opened hmonth hfree hdays
      | opened hagain hfreeAgain _ =>
          -- A command has one month, and it cannot be opened anew.
          rw [hmonth] at hagain
          cases hagain
          exact absurd hfreeAgain (findMonth?_insertMonth_ne_none _ _ _ _)

theorem Command.MayAsk.leaves {command : Command} {occasion : Occasion} {l : Ledger} {α : Type}
    {request : Request α} {reply : Ledger.Reply α} (hmay : command.MayAsk occasion ⟨request⟩)
    (hreply : l.handle request = .ok reply) : command.Leaves occasion l reply.ledger := by
  rcases hmay with hreading | ⟨year, month, hmonth, hrequest⟩
  · rw [hreading.ledger_eq hreply]
    exact .same
  · cases hrequest
    obtain ⟨_, _, ⟨row, _, rfl⟩ | ⟨hfree, days, hdays, rfl⟩⟩ := Ledger.openMonth_eq_ok.mp hreply
    · exact .same
    · exact .opened hmonth hfree hdays

/-- A command that fails leaves the ledger as it was, or with its month added. -/
theorem leaves_of_failed {command : Command} {policy : CostPolicy} {occasion : Occasion}
    {l : Ledger} (hfailed : ((body command policy occasion).run l).ending.code ≠ 0) :
    command.Leaves occasion l ((body command policy occasion).run l).ledger :=
  ((body_changesLast command policy occasion).run (fun _ => .same) .trans
    (fun hmay hreply => hmay.leaves hreply) l).resolve_left hfailed

/-- The month that a ledger has been given is empty. -/
theorem addsEmptyMonth {l : Ledger} (h : Ledger.Integrity l) {year month : Int} {days : Nat}
    (hfree : l.findMonth? year month = none)
    (hdays : Calendar.daysInMonth year month = .ok days) :
    AddsEmptyMonth l (l.insertMonth year month days) year month := by
  have hfinal := h.insertMonth hfree hdays
  have hmem : ⟨l.counters.month + 1, year, month, 0, 0, 0, 0⟩ ∈
      (l.insertMonth year month days).months :=
    List.mem_append_right _ (List.mem_singleton_self _)
  have hfresh {owner : Int} (howner : owner ∈ Table.numbers l.months) :
      owner ≠ l.counters.month + 1 := by
    rintro rfl
    exact h.months.next_free howner
  refine ⟨⟨l.counters.month + 1, year, month, 0, 0, 0, 0⟩, _, _,
    (l.insertMonth year month days).monthOf ⟨l.counters.month + 1, year, month, 0, 0, 0, 0⟩,
    hfree, ⟨rfl, rfl⟩, ?_, rfl, ?_, ⟨?_, ?_⟩, ?_, ?_, rfl, rfl, rfl, rfl⟩
  · intro day hday
    obtain ⟨i, _, rfl⟩ := List.mem_map.mp hday
    rfl
  · exact Ledger.handle_month (hfinal.find?_month hmem)
  · refine List.map_eq_nil_iff.mpr (List.filter_eq_nil_iff.mpr fun income hincome => ?_)
    simpa using hfresh (h.incomeMonth income hincome)
  · refine List.map_eq_nil_iff.mpr (List.filter_eq_nil_iff.mpr fun payment hpayment => ?_)
    simpa using hfresh (h.paymentMonth payment hpayment)
  · simp only [Ledger.monthOf, List.map_map]
    exact (hfinal.calendar _ hmem).2
  · intro day hday
    obtain ⟨dayRow, hdayRow, rfl⟩ := List.mem_map.mp hday
    have hnew : dayRow ∈ (l.insertMonth year month days).daysOf (l.counters.month + 1) := hdayRow
    rw [h.daysOf_insertMonth_new] at hnew
    obtain ⟨i, _, rfl⟩ := List.mem_map.mp hnew
    refine ⟨List.map_eq_nil_iff.mpr (List.filter_eq_nil_iff.mpr fun spend hspend => ?_), rfl⟩
    have := h.days.given _ (h.spendDay spend hspend)
    simp only [decide_eq_true_eq]
    omega

/-! ## Sessions -/

namespace Session

/-- The command that a line is read as. -/
def Reads (s : Session) (line : List String) (command : Command) : Prop :=
  ∃ entrance rest, s.conventions.enter line = .ok (entrance, rest) ∧
    s.conventions.read entrance rest = .ok command

/-- The database that the commands of a session open, and the ledger in it. -/
def Opens (s : Session) (path : Path) (l : Ledger) : Prop :=
  ∃ settings, Settings.load s.files s.environment = .ok settings ∧
    settings.databasePath s.environment = .ok path ∧ s.files.hasEntry path = .ok true ∧
    s.files.ledger path = .ok l

variable {s : Session} {line : List String}

theorem files_failed (s : Session) (why : Failure) : (s.failed why).files = s.files := by
  unfold failed
  split <;> rfl

theorem files_detour (s : Session) (detour : Detour) : (s.detour detour).files = s.files := by
  cases detour <;> rfl

theorem files_misconfigured (s : Session) (why : Failure) :
    (s.misconfigured why).files = s.files := by
  cases why <;> rfl

/-- A command either leaves all files alone or has run on the ledger of its database. -/
theorem runBody_cases (s : Session) (settings : Settings) (command : Command) :
    (s.runBody settings command).files = s.files ∨
      ∃ path l, settings.databasePath s.environment = .ok path ∧
        s.files.hasEntry path = .ok true ∧ s.files.ledger path = .ok l ∧
        (s.runBody settings command).files =
          s.files.store path ((body command settings.policy s.occasion).run l).ledger ∧
        (s.runBody settings command).ending =
          ((body command settings.policy s.occasion).run l).ending := by
  unfold runBody
  split
  next why _ => exact .inl (files_failed s why)
  next path hpath =>
    split
    next fault _ => exact .inl (files_failed s _)
    next => exact .inl rfl
    next hentry =>
      split
      next fault _ => exact .inl (files_failed s _)
      next l hledger => exact .inr ⟨path, l, hpath, hentry, hledger, rfl, rfl⟩

/-- A line that does not set up either leaves all files alone or runs a command on the ledger of
its database. -/
theorem run_cases (s : Session) (hline : ∀ force code, ¬ s.Reads line (.setUp force code)) :
    (s.run line).files = s.files ∨
      ∃ command policy path l, s.Reads line command ∧ s.Opens path l ∧
        (s.run line).files = s.files.store path ((body command policy s.occasion).run l).ledger ∧
        (s.run line).ending = ((body command policy s.occasion).run l).ending := by
  unfold run
  split
  next detour _ => exact .inl (files_detour s detour)
  next entrance rest henter =>
    split
    next why _ => exact .inl (files_misconfigured s why)
    next settings hload =>
      split
      next detour _ => exact .inl (files_detour s detour)
      next command hread =>
        have hcommand : s.Reads line command := ⟨entrance, rest, henter, hread⟩
        unfold runCommand
        split
        next => exact absurd hcommand (hline _ _)
        next => exact .inl rfl
        next =>
          refine (s.runBody_cases settings _).imp_right ?_
          rintro ⟨path, l, hpath, hentry, hledger, hfiles, hending⟩
          exact ⟨_, settings.policy, path, l, hcommand,
            ⟨settings, hload, hpath, hentry, hledger⟩, hfiles, hending⟩

/-- The database that a session opens, if it opens one, is in a state that a new ledger comes to. -/
def IsKept (s : Session) : Prop :=
  ∀ path l, s.Opens path l → ∃ currency operations, l = (Ledger.empty currency).run operations

/-- A command line other than a set-up that ends with another status than zero leaves every ledger
as it was, except that one which opens a month may have added this month, still empty, to the ledger
of its database. -/
theorem run_of_failed (hkept : s.IsKept) (hline : ∀ force code, ¬ s.Reads line (.setUp force code))
    (hfailed : (s.run line).ending.code ≠ 0) :
    ((s.run line).files.Same s.files ∧
      ∀ path, (s.run line).files.ledger path = s.files.ledger path) ∨
    ∃ command path place l final year month, s.Reads line command ∧
      command.month? s.occasion = some (year, month) ∧ s.Opens path l ∧
      AddsEmptyMonth l final year month ∧
      (s.run line).files.ledger path = .ok final ∧ s.files.place path = .ok place ∧
      ∀ other, other ≠ place → Files.entry? (s.run line).files other = s.files.entry? other := by
  have hsame (h : (s.run line).files.Same s.files) : ((s.run line).files.Same s.files ∧
      ∀ path, (s.run line).files.ledger path = s.files.ledger path) :=
    ⟨h, h.ledger_eq⟩
  rcases s.run_cases hline with hfiles | ⟨command, policy, path, l, hread, hopens, hfiles, hending⟩
  · exact .inl (hsame (hfiles ▸ .refl _))
  · rw [hending] at hfailed
    obtain ⟨_, _, _, _, hledger⟩ := id hopens
    obtain ⟨place, hholds⟩ := Files.ledger_eq_ok.mp hledger
    generalize hfinal : ((body command policy s.occasion).run l).ledger = final at hfiles
    have hleaves : command.Leaves s.occasion l final := hfinal ▸ leaves_of_failed hfailed
    cases hleaves with
    | same => exact .inl (hsame (hfiles ▸ hholds.same_store))
    | @opened year month days hmonth hfree hdays =>
        obtain ⟨currency, operations, rfl⟩ := hkept path l hopens
        refine .inr ⟨command, path, place, _, _, year, month, hread, hmonth, hopens,
          addsEmptyMonth ((Ledger.Integrity.empty currency).run operations) hfree hdays, ?_,
          hholds.place_eq, ?_⟩
        · rw [hfiles]
          exact Files.ledger_eq_ok.mpr ⟨place, hholds.store _⟩
        · intro other hother
          rw [hfiles]
          exact hholds.entry?_store_of_ne _ hother

/-- A prepared database in the folder of a user who has no configuration file, at a terminal. -/
def prepared : Session where
  files := ⟨["home", "user"], [(["home", "user", "data"], .folder),
    (["home", "user", "data", "budgetmgr"], .folder),
    (["home", "user", "data", "budgetmgr", "budgetmgr.db"],
      .file (.ledger (Ledger.empty .gbp)))]⟩
  environment := {
    configHome := some "config", dataHome := some "data", home := "/home/user", logLevel := none
    accounts := [("user", "/home/user")] }
  conventions := Terminal.conventions 2024
  today := ⟨2024, 2, 29, by decide⟩

/-- An income for a month that is not open yet, with an amount that cannot be read. -/
def unreadableIncome : List String :=
  ["income", "add", "Pay", "much", "--month", "2023-11"]

theorem opens_prepared {path : Path} {l : Ledger} (h : prepared.Opens path l) :
    path = ⟨"", ["data", "budgetmgr", "budgetmgr.db"]⟩ ∧ l = Ledger.empty .gbp := by
  obtain ⟨settings, hload, hpath, _, hledger⟩ := h
  have hdefault : Settings.load prepared.files prepared.environment =
      .ok ⟨.gbp, .any, .warning, none⟩ :=
    rfl
  cases hdefault.symm.trans hload
  have hplace : prepared.environment.databasePath =
      .ok ⟨"", ["data", "budgetmgr", "budgetmgr.db"]⟩ :=
    rfl
  cases hplace.symm.trans hpath
  have hstored : prepared.files.ledger ⟨"", ["data", "budgetmgr", "budgetmgr.db"]⟩ =
      .ok (Ledger.empty .gbp) :=
    rfl
  cases hstored.symm.trans hledger
  exact ⟨rfl, rfl⟩

/-- The line is read as a command for November 2023. -/
theorem month?_of_reads {command : Command} (h : prepared.Reads unreadableIncome command) :
    command.month? prepared.occasion = some (2023, 11) := by
  obtain ⟨entrance, rest, henter, hread⟩ := h
  have hentered : ∀ found, prepared.conventions.enter unreadableIncome = .ok found →
      found = (.group .income, ["add", "Pay", "much", "--month", "2023-11"]) := by
    decide +kernel
  have hmonth : ∀ found, prepared.conventions.read (.group .income)
      ["add", "Pay", "much", "--month", "2023-11"] = .ok found →
        found.month? prepared.occasion = some (2023, 11) := by
    decide +kernel
  cases hentered _ henter
  exact hmonth command hread

theorem run_unreadableIncome :
    (prepared.run unreadableIncome).ending.code ≠ 0 ∧ ∃ final,
      AddsEmptyMonth (Ledger.empty .gbp) final 2023 11 ∧
        (prepared.run unreadableIncome).files.ledger
          ⟨"", ["data", "budgetmgr", "budgetmgr.db"]⟩ = .ok final := by
  have hkept : prepared.IsKept := by
    intro path l hopens
    obtain ⟨_, rfl⟩ := opens_prepared hopens
    exact ⟨.gbp, [], rfl⟩
  have hline : ∀ force code, ¬ prepared.Reads unreadableIncome (.setUp force code) := by
    intro force code hread
    cases month?_of_reads hread
  have hfailed : (prepared.run unreadableIncome).ending.code ≠ 0 := by
    decide +kernel
  refine ⟨hfailed, ?_⟩
  rcases run_of_failed hkept hline hfailed with ⟨_, hsame⟩ | ⟨command, path, place, l, final, year,
    month, hread, hmonth, hopens, hadds, hledger, _⟩
  · have hopened : ∀ l, (prepared.run unreadableIncome).files.ledger
        ⟨"", ["data", "budgetmgr", "budgetmgr.db"]⟩ = .ok l → l.months.length = 1 := by
      decide +kernel
    rw [hsame] at hopened
    cases hopened (Ledger.empty .gbp) rfl
  · obtain ⟨rfl, rfl⟩ := opens_prepared hopens
    cases (month?_of_reads hread).symm.trans hmonth
    exact ⟨final, hadds, hledger⟩

end Session

end Allowance.Console
