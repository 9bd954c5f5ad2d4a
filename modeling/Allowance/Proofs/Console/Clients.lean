import Allowance.Proofs.Console.Commitment
import Allowance.Proofs.Ledger.Effect

/-!
# Clients of one ledger

Any number of commands are under way on one ledger, each at some request of its program, and their
requests come in any order. A request is a transaction: it is handled as a whole, by one step.
-/

namespace Allowance.Console

open Ledger (Operation Request Reply Sound)

/-! ## Steps -/

/-- A command that is under way, and what it has still to do. -/
structure Client where
  command : Command
  occasion : Occasion
  program : Program Unit

/-- A ledger with its clients, and what they have committed so far: the number of the client with
each commit. -/
structure Shared where
  ledger : Ledger
  clients : List Client
  commits : List (Nat × Commit)

/-- Either a new client comes, or one of those that are there does its next step. -/
inductive Event where
  | start (command : Command) (policy : CostPolicy) (occasion : Occasion)
  | advance (number : Nat)

namespace Shared

def opened (l : Ledger) : Shared :=
  ⟨l, [], []⟩

/-- The clients when one of them goes on with another program. -/
def goingOn (s : Shared) (number : Nat) (program : Program Unit) : List Client :=
  s.clients.modify number fun client => { client with program }

/-- One step of a client: it displays something, or has one request handled. -/
def advance (s : Shared) (number : Nat) : Shared :=
  match s.clients[number]? with
  | none => s
  | some client =>
    match client.program with
    | .done _ => s
    | .leave _ => s
    | .display _ next => { s with clients := s.goingOn number next }
    | .ask request next =>
      match s.ledger.handle request with
      | .ok reply =>
        ⟨reply.ledger, s.goingOn number (next reply.value),
          s.commits ++ [(number, ⟨request, reply⟩)]⟩
      | .error why =>
        { s with
          ledger := s.ledger.after request
          clients := s.goingOn number (.fail why) }

def next (s : Shared) : Event → Shared
  | .start command policy occasion =>
    { s with clients := s.clients ++ [⟨command, occasion, body command policy occasion⟩] }
  | .advance number => s.advance number

def run (s : Shared) (schedule : List Event) : Shared :=
  schedule.foldl next s

@[simp] theorem run_cons (s : Shared) (event : Event) (rest : List Event) :
    s.run (event :: rest) = (s.next event).run rest :=
  rfl

theorem run_append (s : Shared) (earlier later : List Event) :
    s.run (earlier ++ later) = (s.run earlier).run later :=
  List.foldl_append

/-- Everything that an event can do. -/
inductive Step (s : Shared) : Event → Shared → Prop where
  | started (command : Command) (policy : CostPolicy) (occasion : Occasion) :
      Step s (.start command policy occasion)
        { s with clients := s.clients ++ [⟨command, occasion, body command policy occasion⟩] }
  | idle (number : Nat) : Step s (.advance number) s
  | displayed {number : Nat} {client : Client} (d : Display) (next : Program Unit)
      (hclient : s.clients[number]? = some client) (hprogram : client.program = .display d next) :
      Step s (.advance number) { s with clients := s.goingOn number next }
  | failed {number : Nat} {client : Client} {β : Type} (request : Request β)
      (next : β → Program Unit) (why : Failure) (hclient : s.clients[number]? = some client)
      (hprogram : client.program = .ask request next)
      (hfails : s.ledger.handle request = .error why) :
      Step s (.advance number) { s with clients := s.goingOn number (.fail why) }
  | committed {number : Nat} {client : Client} {β : Type} (request : Request β)
      (next : β → Program Unit) (reply : Reply β) (hclient : s.clients[number]? = some client)
      (hprogram : client.program = .ask request next)
      (hreply : s.ledger.handle request = .ok reply) :
      Step s (.advance number) ⟨reply.ledger, s.goingOn number (next reply.value),
        s.commits ++ [(number, ⟨request, reply⟩)]⟩

theorem step_next (s : Shared) (event : Event) : s.Step event (s.next event) := by
  cases event with
  | start command policy occasion => exact .started command policy occasion
  | advance number =>
      change s.Step (.advance number) (s.advance number)
      unfold advance
      split
      next => exact .idle number
      next client hclient =>
        split
        next => exact .idle number
        next => exact .idle number
        next d program hprogram => exact .displayed d program hclient hprogram
        next request program hprogram =>
          split
          next reply hreply => exact .committed _ _ reply hclient hprogram hreply
          next why hfails =>
            rw [Ledger.after_of_error hfails]
            exact .failed _ _ why hclient hprogram hfails

/-! ## What every step preserves -/

variable {s final : Shared}

theorem goingOn_eq_some {number other : Nat} {program : Program Unit} {client : Client}
    (h : (s.goingOn number program)[other]? = some client) :
    ∃ old, s.clients[other]? = some old ∧
      client = if number = other then { old with program } else old := by
  rw [goingOn, List.getElem?_modify] at h
  obtain ⟨old, hold, hclient⟩ := Option.map_eq_some_iff.mp h
  refine ⟨old, hold, hclient.symm.trans ?_⟩
  split <;> rfl

/-- Whether a client is there under a number with a command that it was started with on an
occasion. -/
def HasClient (s : Shared) (number : Nat) (command : Command) (occasion : Occasion) : Prop :=
  ∃ client, s.clients[number]? = some client ∧ client.command = command ∧
    client.occasion = occasion

theorem HasClient.goingOn {number other : Nat} {command : Command} {occasion : Occasion}
    (h : s.HasClient number command occasion) {program : Program Unit}
    (hclients : final.clients = s.goingOn other program) :
    final.HasClient number command occasion := by
  obtain ⟨client, hclient, hcommand, hoccasion⟩ := h
  refine ⟨if other = number then { client with program } else client, ?_, ?_⟩
  · rw [hclients, Shared.goingOn, List.getElem?_modify, hclient]
    split <;> rfl
  · split
    next => exact ⟨hcommand, hoccasion⟩
    next => exact ⟨hcommand, hoccasion⟩

/-- Clients keep their numbers and commands. -/
theorem HasClient.run {number : Nat} {command : Command} {occasion : Occasion}
    (h : s.HasClient number command occasion) (schedule : List Event) :
    (s.run schedule).HasClient number command occasion := by
  induction schedule generalizing s with
  | nil => exact h
  | cons event rest ih =>
      refine ih ?_
      have hstep := step_next s event
      generalize s.next event = final at hstep ⊢
      cases hstep with
      | started =>
          obtain ⟨client, hclient, hrest⟩ := h
          exact ⟨client, (List.getElem?_append_left (List.getElem?_eq_some_iff.mp hclient).1).trans
            hclient, hrest⟩
      | idle => exact h
      | displayed | failed | committed => exact h.goingOn rfl

/-- A client has committed the entry that its command adds, or cannot succeed without doing so. -/
def Pursues (s : Shared) (number : Nat) (client : Client) : Prop :=
  (∃ commit, (number, commit) ∈ s.commits ∧ client.command.IsMetBy client.occasion commit) ∨
    client.program.Achieves (Command.IsMetBy client.occasion client.command) s.ledger

/-- What holds of a ledger and its clients between steps. -/
structure Invariant (s : Shared) : Prop where
  sound : Sound s.ledger
  pursued : ∀ number client, s.clients[number]? = some client → client.command.AddsEntry →
    s.Pursues number client

theorem invariant_opened {l : Ledger} (h : Sound l) : (opened l).Invariant :=
  ⟨h, by simp [opened]⟩

/-- A client that does nothing goes on pursuing what it has pursued. -/
theorem Pursues.later {number : Nat} {client : Client} (h : s.Pursues number client)
    (hlater : s.ledger.Later final.ledger) (hcommits : s.commits ⊆ final.commits) :
    final.Pursues number client :=
  h.imp (fun ⟨commit, hcommit, hmet⟩ => ⟨commit, hcommits hcommit, hmet⟩) fun hprogram =>
    hprogram.later hlater

/-- When one client goes on, only its own pursuit has to be looked at. -/
theorem Invariant.goingOn (h : s.Invariant) {number : Nat} {client : Client}
    (hclient : s.clients[number]? = some client) {program : Program Unit}
    (hclients : final.clients = s.goingOn number program)
    (hsound : Sound final.ledger) (hlater : s.ledger.Later final.ledger)
    (hcommits : s.commits ⊆ final.commits)
    (hpursues : client.command.AddsEntry → s.Pursues number client →
      final.Pursues number { client with program }) : final.Invariant := by
  refine ⟨hsound, fun other found hfound hadds => ?_⟩
  rw [hclients] at hfound
  obtain ⟨old, hold, rfl⟩ := goingOn_eq_some hfound
  split at hadds
  next heq =>
    subst heq
    obtain rfl : client = old := Option.some.inj (hclient.symm.trans hold)
    rw [if_pos rfl]
    exact hpursues hadds (h.pursued number client hclient hadds)
  next hne =>
    rw [if_neg hne]
    exact (h.pursued other old hold hadds).later hlater hcommits

theorem Invariant.step (h : s.Invariant) {event : Event} (hstep : s.Step event final) :
    final.Invariant := by
  cases hstep with
  | started command policy occasion =>
      refine ⟨h.sound, fun number client hclient hadds => ?_⟩
      rw [List.getElem?_append] at hclient
      split at hclient
      · exact (h.pursued number client hclient hadds).later (.refl _) (List.Subset.refl _)
      · obtain rfl := List.mem_singleton.mp (List.mem_of_getElem? hclient)
        exact .inr (body_achieves h.sound.integrity hadds policy occasion)
  | idle number => exact h
  | @displayed number client d next hclient hprogram =>
      refine h.goingOn hclient rfl h.sound (.refl _) (List.Subset.refl _) fun _ hpursues => ?_
      refine hpursues.imp_right fun hachieves => ?_
      rw [hprogram] at hachieves
      exact Program.achieves_display.mp hachieves
  | @failed number client _ request next why hclient hprogram hfails =>
      exact h.goingOn hclient rfl h.sound (.refl _) (List.Subset.refl _) fun _ hpursues =>
        hpursues.imp_right fun _ => Program.achieves_fail why
  | @committed number client _ request next reply hclient hprogram hreply =>
      refine h.goingOn hclient rfl (h.sound.handle hreply) (Ledger.later_of_handle hreply)
        (List.subset_append_left _ _) fun _ hpursues => ?_
      rcases hpursues with ⟨commit, hcommit, hmet⟩ | hachieves
      · exact .inl ⟨commit, List.mem_append_left _ hcommit, hmet⟩
      · rw [hprogram] at hachieves
        exact (Program.achieves_ask.mp hachieves s.ledger reply (.refl _) hreply).imp_left
          fun hmet => ⟨_, List.mem_append_right _ (List.mem_singleton_self _), hmet⟩

/-! ## What a schedule commits -/

/-- The next step of a client has a request handled with success. -/
def CommitsNext (s : Shared) (number : Nat) (commit : Commit) : Prop :=
  (∃ client next, s.clients[number]? = some client ∧ client.program = .ask commit.request next) ∧
    s.ledger.handle commit.request = .ok commit.reply ∧
    (s.advance number).ledger = commit.reply.ledger

/-- A client commits a request at some step of a schedule. -/
def CommitsDuring (s : Shared) (schedule : List Event) (number : Nat) (commit : Commit) : Prop :=
  ∃ earlier later, schedule = earlier ++ .advance number :: later ∧
    (s.run earlier).CommitsNext number commit

theorem next_cases (s : Shared) (event : Event) :
    ((s.next event).ledger = s.ledger ∧ (s.next event).commits = s.commits) ∨
      ∃ number commit, event = .advance number ∧ s.CommitsNext number commit ∧
        (s.next event).ledger = commit.reply.ledger ∧
        (s.next event).commits = s.commits ++ [(number, commit)] := by
  have hstep := step_next s event
  generalize hfinal : s.next event = final at hstep
  cases hstep with
  | started | idle | displayed | failed => exact .inl ⟨rfl, rfl⟩
  | @committed number client _ request next reply hclient hprogram hreply =>
      exact .inr ⟨number, ⟨request, reply⟩, rfl,
        ⟨⟨client, next, hclient, hprogram⟩, hreply, congrArg ledger hfinal⟩, rfl, rfl⟩

variable {schedule : List Event} {number : Nat} {commit : Commit}

theorem CommitsNext.during (h : s.CommitsNext number commit) (rest : List Event) :
    s.CommitsDuring (.advance number :: rest) number commit :=
  ⟨[], rest, rfl, h⟩

theorem CommitsDuring.cons {event : Event}
    (h : (s.next event).CommitsDuring schedule number commit) :
    s.CommitsDuring (event :: schedule) number commit := by
  obtain ⟨earlier, later, rfl, hnext⟩ := h
  exact ⟨event :: earlier, later, rfl, hnext⟩

/-- What is noted as committed has been committed. -/
theorem commitsDuring_of_mem (h : (number, commit) ∈ (s.run schedule).commits) :
    (number, commit) ∈ s.commits ∨ s.CommitsDuring schedule number commit := by
  induction schedule generalizing s with
  | nil => exact .inl h
  | cons event rest ih =>
      rcases ih h with hnext | hlater
      · rcases next_cases s event with ⟨_, hcommits⟩ | ⟨_, _, rfl, hcommit, _, hcommits⟩
        · exact .inl (hcommits ▸ hnext)
        · rw [hcommits, List.mem_append, List.mem_singleton] at hnext
          refine hnext.imp_right fun heq => ?_
          cases heq
          exact hcommit.during rest
      · exact .inr hlater.cons

/-- A row stays in the ledger until a client commits its removal. -/
theorem hasRow_run {id : Int} {what : Entity} (hrow : s.ledger.HasRow id what)
    (schedule : List Event) :
    (s.run schedule).ledger.HasRow id what ∨ ∃ number commit,
      s.CommitsDuring schedule number commit ∧
        Operation.Removes id ⟨commit.request⟩ what := by
  induction schedule generalizing s with
  | nil => exact .inl hrow
  | cons event rest ih =>
      have hnext : (s.next event).ledger.HasRow id what ∨ ∃ number commit,
          s.CommitsDuring (event :: rest) number commit ∧
            Operation.Removes id ⟨commit.request⟩ what := by
        rcases next_cases s event with ⟨hledger, _⟩ | ⟨number, commit, rfl, hcommit, hledger, _⟩
        · exact .inl (hledger ▸ hrow)
        · rw [hledger]
          exact (hrow.handle hcommit.2.1).imp_right fun hremoves =>
            ⟨number, commit, hcommit.during rest, hremoves⟩
      rcases hnext with hrow | hremoved
      · rcases ih hrow with hkept | ⟨number, commit, hcommit, hremoves⟩
        · exact .inl hkept
        · exact .inr ⟨number, commit, hcommit.cons, hremoves⟩
      · exact .inr hremoved

theorem later_run (s : Shared) (schedule : List Event) :
    s.ledger.Later (s.run schedule).ledger := by
  induction schedule generalizing s with
  | nil => exact .refl _
  | cons event rest ih =>
      refine .trans ?_ (ih (s.next event))
      rcases next_cases s event with ⟨hledger, _⟩ | ⟨_, _, _, hcommit, hledger, _⟩
      · exact hledger ▸ .refl _
      · exact hledger ▸ Ledger.later_of_handle hcommit.2.1

theorem Invariant.run (h : s.Invariant) (schedule : List Event) : (s.run schedule).Invariant := by
  induction schedule generalizing s with
  | nil => exact h
  | cons event rest ih => exact ih (h.step (step_next s event))

/-! ## A client without others -/

/-- A client with a program, alone with a ledger. -/
def alone (command : Command) (occasion : Occasion) (l : Ledger) (commits : List (Nat × Commit))
    (p : Program Unit) : Shared :=
  ⟨l, [⟨command, occasion, p⟩], commits⟩

/-- Some schedule brings the only client to the end of a run. -/
def ReachesEnd (s : Shared) (result : Run) : Prop :=
  ∃ schedule client, (s.run schedule).clients = [client] ∧
    (s.run schedule).ledger = result.ledger ∧ client.program.ending? = some result.ending

theorem ReachesEnd.of_next (event : Event) {result : Run} (h : (s.next event).ReachesEnd result) :
    s.ReachesEnd result := by
  obtain ⟨schedule, hrun⟩ := h
  exact ⟨event :: schedule, hrun⟩

theorem reachesEnd_fail (command : Command) (occasion : Occasion) (l : Ledger)
    (commits : List (Nat × Commit)) (why : Failure) :
    (alone command occasion l commits (.fail why)).ReachesEnd (Run.failed l why) := by
  unfold Program.fail Run.failed
  cases report? why with
  | some report => exact ⟨[.advance 0], _, rfl, rfl, rfl⟩
  | none => exact ⟨[], _, rfl, rfl, rfl⟩

/-- A client that is alone comes to the end that its program has without clients. -/
theorem reachesEnd_alone (command : Command) (occasion : Occasion) (p : Program Unit) (l : Ledger)
    (commits : List (Nat × Commit)) :
    (alone command occasion l commits p).ReachesEnd (p.run l) := by
  induction p generalizing l commits with
  | done => exact ⟨[], _, rfl, rfl, rfl⟩
  | leave => exact ⟨[], _, rfl, rfl, rfl⟩
  | display d next ih => exact .of_next (.advance 0) (ih l commits)
  | ask request next ih =>
      refine .of_next (.advance 0) ?_
      rw [Program.run]
      cases hhandled : l.handle request with
      | ok reply =>
          have hnext : (alone command occasion l commits (.ask request next)).next (.advance 0) =
              alone command occasion reply.ledger (commits ++ [(0, ⟨request, reply⟩)])
                (next reply.value) := by
            simp [Shared.next, advance, alone, hhandled, goingOn]
          rw [hnext]
          exact ih reply.value reply.ledger _
      | error why =>
          have hnext : (alone command occasion l commits (.ask request next)).next (.advance 0) =
              alone command occasion l commits (.fail why) := by
            simp [Shared.next, advance, alone, hhandled, goingOn, Ledger.after_of_error hhandled]
          rw [hnext, Ledger.after_of_error hhandled]
          exact reachesEnd_fail command occasion l commits why

/-! ## Every schedule -/

/-- Any number of commands are run on a ledger that earlier requests have left, their requests in
any order. At every time each month is loaded and stays as it is when it is recomputed. A command
that has added an entry with success has committed it in the month or on the day that it means. A
row that is there at some time is there later on, unless a client has committed its removal. -/
theorem clients_run (currency : Currency) (operations : List Operation) (schedule : List Event) :
    let start := opened ((Ledger.empty currency).run operations)
    let s := start.run schedule
    (∀ row ∈ s.ledger.months, ∃ month,
      s.ledger.handle (.month row.id) = .ok (s.ledger.answer month) ∧
        month.recompute none currency.precision = .ok month) ∧
      (∀ number client ending, s.clients[number]? = some client → client.command.AddsEntry →
        client.program.ending? = some ending → ending.code = 0 → ∃ commit,
          start.CommitsDuring schedule number commit ∧
            client.command.IsMetBy client.occasion commit) ∧
      ∀ earlier later, schedule = earlier ++ later → ∀ id what,
        (start.run earlier).ledger.HasRow id what → s.ledger.HasRow id what ∨ ∃ number commit,
          (start.run earlier).CommitsDuring later number commit ∧
            Operation.Removes id ⟨commit.request⟩ what := by
  intro start s
  have hstart : Sound start.ledger := (Sound.empty currency).run operations
  have hinvariant : s.Invariant := (invariant_opened hstart).run schedule
  refine ⟨fun row hrow => ?_, fun number client ending hclient hadds hending hcode => ?_, ?_⟩
  · have hlater : start.ledger.Later s.ledger := later_run start schedule
    have hprecision : s.ledger.precision = currency.precision := by
      rw [Ledger.precision, hlater.currency_eq hstart.integrity]
      exact congrArg Currency.precision (Ledger.currency_run currency operations)
    refine ⟨s.ledger.monthOf row,
      Ledger.handle_month (hinvariant.sound.integrity.find?_month hrow), ?_⟩
    rw [← hprecision]
    exact (hinvariant.sound.settled row hrow).recompute_eq_self
      (hinvariant.sound.integrity.calendar row hrow).1
  · rcases hinvariant.pursued number client hclient hadds with ⟨commit, hcommit, hmet⟩ | hachieves
    · rcases commitsDuring_of_mem hcommit with hnone | hcommits
      · cases hnone
      · exact ⟨commit, hcommits, hmet⟩
    · exact absurd hcode (hachieves.code_ne_zero hending)
  · rintro earlier later rfl id what hrow
    have hrun : s = (start.run earlier).run later := run_append start earlier later
    rw [hrun]
    exact hasRow_run hrow later

/-- A ledger is given a spend type. -/
def typed : List Operation :=
  [⟨.addSpendType ⟨"Food", 0⟩⟩]

/-- The day on which the clients of the following schedules are started at a terminal. -/
def firstOfMarch : Occasion :=
  ⟨⟨2024, 3, 1, by decide⟩, (Terminal.conventions 2024).date⟩

/-- Two clients are to add spends on one day. -/
def spenders : List Event :=
  [.start (.addSpend "Tea" "2.50" (some "2024-02-29") 1 "") .any firstOfMarch,
    .start (.addSpend "Cake" "4" (some "29/02/2024") 1 "") .any firstOfMarch]

/-- They do their steps in turns, so that both open the month of the day. -/
def turns : List Event :=
  (List.replicate 9 [.advance 0, .advance 1]).flatten

/-- A third client removes the first of their spends. -/
def remover : List Event :=
  .start (.removeSpend 1) .any firstOfMarch :: List.replicate 3 (.advance 2)

/-- The ledger with its clients as the day begins. -/
def morning : Shared :=
  opened ((Ledger.empty .gbp).run typed)

theorem clients_spenders :
    let evening := morning.run (spenders ++ turns ++ remover)
    evening.ledger.months.length = 1 ∧
      (∀ row ∈ evening.ledger.months, ∃ month,
        evening.ledger.handle (.month row.id) = .ok (evening.ledger.answer month) ∧
          month.recompute none Currency.gbp.precision = .ok month) ∧
      (∃ commit, morning.CommitsDuring (spenders ++ turns ++ remover) 1 commit ∧
        (Command.addSpend "Cake" "4" (some "29/02/2024") 1 "").IsMetBy firstOfMarch commit) ∧
      ∃ number commit, (morning.run (spenders ++ turns)).CommitsDuring remover number commit ∧
        Operation.Removes 1 ⟨commit.request⟩ .spend := by
  have hmorning : opened ((Ledger.empty .gbp).run typed) = morning :=
    rfl
  obtain ⟨hfixed, hadded, hkept⟩ := clients_run .gbp typed (spenders ++ turns ++ remover)
  rw [hmorning] at hfixed hadded hkept
  change let evening := morning.run (spenders ++ turns ++ remover)
    evening.ledger.months.length = 1 ∧ _ ∧ _ ∧ _
  have hclient : (morning.run (spenders ++ turns ++ remover)).HasClient 1
      (.addSpend "Cake" "4" (some "29/02/2024") 1 "") firstOfMarch := by
    have hstarted : (morning.run spenders).HasClient 1
        (.addSpend "Cake" "4" (some "29/02/2024") 1 "") firstOfMarch :=
      ⟨_, rfl, rfl, rfl⟩
    rw [run_append, run_append]
    exact (hstarted.run turns).run remover
  have hended : (morning.run (spenders ++ turns ++ remover)).clients[1]?.map
      (fun client => client.program.ending?.map (·.code)) = some (some 0) := by
    decide +kernel
  refine ⟨by decide +kernel, hfixed, ?_, ?_⟩
  · obtain ⟨client, hfound, hcommand, hoccasion⟩ := hclient
    rw [hfound] at hended
    obtain ⟨ending, hending, hcode⟩ := Option.map_eq_some_iff.mp (Option.some.inj hended)
    have hmet := hadded 1 client ending hfound (hcommand ▸ True.intro) hending hcode
    rw [hcommand, hoccasion] at hmet
    exact hmet
  · have hbefore : (1 : Int) ∈ Table.numbers (morning.run (spenders ++ turns)).ledger.spends := by
      decide +kernel
    have hafter : (1 : Int) ∉
        Table.numbers (morning.run (spenders ++ turns ++ remover)).ledger.spends := by
      decide +kernel
    exact (hkept (spenders ++ turns) remover rfl 1 .spend hbefore).resolve_left hafter

end Shared

end Allowance.Console
