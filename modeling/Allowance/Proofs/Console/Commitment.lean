import Allowance.Proofs.Console.Aftermath

/-!
# What a command that adds an entry commits

Between two requests of a command other clients may change the ledger. A command that adds an entry
carries the number of a month or a day from one request to the next, and this number still means the
same date by then. So the command cannot succeed without having committed the entry under its date.
-/

namespace Allowance

namespace Ledger

/-- A ledger that another one has become by further requests. -/
def Later (l final : Ledger) : Prop :=
  ∃ operations, final = l.run operations

variable {l middle final : Ledger}

theorem Later.refl (l : Ledger) : l.Later l :=
  ⟨[], rfl⟩

theorem Later.trans (hfirst : l.Later middle) (hsecond : middle.Later final) : l.Later final := by
  obtain ⟨first, rfl⟩ := hfirst
  obtain ⟨second, rfl⟩ := hsecond
  exact ⟨first ++ second, by rw [run, run, run, List.foldl_append]⟩

theorem later_of_handle {α : Type} {request : Request α} {reply : Reply α}
    (hreply : l.handle request = .ok reply) : l.Later reply.ledger :=
  ⟨[⟨request⟩], (after_of_handle hreply).symm⟩

theorem Later.integrity (hlater : l.Later final) (h : Integrity l) : Integrity final := by
  obtain ⟨operations, rfl⟩ := hlater
  exact h.run operations

theorem Later.keepsDates (hlater : l.Later final) (h : Integrity l) : KeepsDates l final := by
  obtain ⟨operations, rfl⟩ := hlater
  exact h.keepsDates_run operations

theorem Later.currency_eq (hlater : l.Later final) (h : Integrity l) :
    final.currency = l.currency := by
  obtain ⟨operations, rfl⟩ := hlater
  exact (run_invariant (fun later => Integrity later ∧ later.currency = l.currency)
    (fun _ _ _ _ hstep hreply =>
      ⟨hstep.1.handle hreply, (hstep.1.currency_eq hreply).trans hstep.2⟩) ⟨h, rfl⟩ operations).2

/-- Numbers of months and days that are known from one ledger still mean the same dates once a
later request has succeeded. -/
theorem Later.keepsDates_reply (hlater : l.Later middle) (h : Integrity l) {α : Type}
    {request : Request α} {reply : Reply α} (hreply : middle.handle request = .ok reply) :
    KeepsDates l reply.ledger :=
  (hlater.trans (later_of_handle hreply)).keepsDates h

end Ledger

namespace Console

open Ledger (Request Reply Later Integrity)

/-- A request that has succeeded, with its answer and the ledger that it left. -/
structure Commit where
  {answer : Type}
  request : Request answer
  reply : Reply answer

namespace Program

variable {α β : Type} {goal : Commit → Prop} {l final : Ledger}

/-- A program leaves a ledger that requests lead to. -/
theorem later_run (p : Program α) (l : Ledger) : l.Later (p.run l).ledger := by
  induction p generalizing l with
  | done | leave => exact .refl l
  | display d next ih => exact ih l
  | ask request next ih =>
      rw [run]
      split
      next reply hreply => exact (Ledger.later_of_handle hreply).trans (ih reply.value reply.ledger)
      next why hfails =>
        rw [run_failed_ledger, Ledger.after_of_error hfails]
        exact .refl l

/-- How a program has ended, if it has. -/
def ending? : Program α → Option Ending
  | done _ => some (.status 0)
  | leave ending => some ending
  | _ => none

/-- From a ledger on, whatever other clients do before each request, the program either fails or
commits what is meant to be committed. -/
def Achieves (goal : Commit → Prop) : Program α → Ledger → Prop
  | done _, _ => False
  | leave ending, _ => ending.code ≠ 0
  | display _ next, l => next.Achieves goal l
  | ask request next, l =>
    ∀ later reply, l.Later later → later.handle request = .ok reply →
      goal ⟨request, reply⟩ ∨ (next reply.value).Achieves goal reply.ledger

/-- What other clients do in the meantime does no harm. -/
theorem Achieves.later {p : Program α} (h : p.Achieves goal l) (hlater : l.Later final) :
    p.Achieves goal final := by
  induction p with
  | done => exact h
  | leave => exact h
  | display d next ih => exact ih h
  | ask request next _ =>
      exact fun later reply hnext => h later reply (hlater.trans hnext)

theorem achieves_display {d : Display} {next : Program α} :
    (display d next).Achieves goal l ↔ next.Achieves goal l :=
  Iff.rfl

theorem achieves_ask {request : Request β} {next : β → Program α} :
    (ask request next).Achieves goal l ↔
      ∀ later reply, l.Later later → later.handle request = .ok reply →
        goal ⟨request, reply⟩ ∨ (next reply.value).Achieves goal reply.ledger :=
  Iff.rfl

/-- A program that has yet to commit something has not succeeded. -/
theorem Achieves.code_ne_zero {p : Program α} (h : p.Achieves goal l) {ending : Ending}
    (hending : p.ending? = some ending) : ending.code ≠ 0 := by
  cases p with
  | done => cases h
  | leave =>
      cases hending
      exact h
  | display | ask => cases hending

theorem achieves_fail (why : Failure) : (fail why : Program α).Achieves goal l := by
  unfold fail
  split
  next status line hreport => exact report?_ne_zero hreport
  next => exact Nat.one_ne_zero

theorem achieves_giveUp_bind (line : String) (f : α → Program β) :
    (giveUp line >>= f).Achieves goal l :=
  Nat.one_ne_zero

theorem achieves_refuseDate (why : Failure) : (refuseDate why : Program α).Achieves goal l := by
  cases why <;> exact Nat.one_ne_zero

theorem achieves_attempt_bind {x : Except Failure α} {f : α → Program β}
    (hf : ∀ a, x = .ok a → (f a).Achieves goal l) : (attempt x >>= f).Achieves goal l := by
  cases x with
  | ok a => exact hf a rfl
  | error why =>
      have hends : (fail why >>= f) = fail why := by
        unfold fail
        split <;> rfl
      rw [attempt, hends]
      exact achieves_fail why

theorem achieves_request_bind {request : Request α} {f : α → Program β}
    (hf : ∀ later reply, l.Later later → later.handle request = .ok reply →
      goal ⟨request, reply⟩ ∨ (f reply.value).Achieves goal reply.ledger) :
    (Program.request request >>= f).Achieves goal l :=
  hf

attribute [irreducible] Achieves

end Program

open Program

/-! ## Commands that add an entry -/

/-- The command adds an income, a monthly payment or a spend. -/
def Command.AddsEntry : Command → Prop
  | .addIncome .. | .addPayment .. | .addSpend .. => True
  | _ => False

/-- A commit adds the entry of a command, in the month or on the day that the command means. -/
def Command.IsMetBy (occasion : Occasion) : Command → Commit → Prop
  | .addIncome title _ typed _, ⟨.addIncome income, reply⟩ =>
    income.title = title ∧ ∃ year month, typedMonth? occasion.today typed = some (year, month) ∧
      ∃ row ∈ reply.ledger.incomes, row.id = reply.value ∧ row.title = Text.trim title ∧
        reply.ledger.IsMonth row.monthId year month
  | .addPayment title _ typed _ _, ⟨.addPayment payment, reply⟩ =>
    payment.title = title ∧ ∃ year month, typedMonth? occasion.today typed = some (year, month) ∧
      ∃ row ∈ reply.ledger.payments, row.id = reply.value ∧ row.title = Text.trim title ∧
        reply.ledger.IsMonth row.monthId year month
  | .addSpend title _ typed _ _, ⟨.addSpend spend, reply⟩ =>
    spend.title = title ∧ ∃ date, typedDay? occasion typed = some date ∧
      ∃ row ∈ reply.ledger.spends, row.id = reply.value ∧ row.title = Text.trim title ∧
        reply.ledger.IsDay row.dayId date
  | _, _ => False

section Adding

variable {goal : Commit → Prop} {l : Ledger} {ctx : Context} {reader : Calendar.DateReader}

/-- The number of an opened month is that of the typed month in every later ledger. -/
theorem achieves_openMonth_bind {β : Type} {typed : Option String} {f : Int → Program β}
    (h : Integrity l)
    (hf : ∀ year month id final, typedMonth? ctx.today typed = some (year, month) →
      Integrity final → final.IsMonth id year month → (f id).Achieves goal final) :
    (ctx.openMonth typed >>= f).Achieves goal l := by
  have hopened {year month : Int} (hmonth : typedMonth? ctx.today typed = some (year, month)) :
      (request (.openMonth year month) >>= f).Achieves goal l := by
    refine achieves_request_bind fun later reply hlater hreply => .inr ?_
    exact hf _ _ _ _ hmonth ((hlater.integrity h).handle hreply) (Ledger.openMonth_isMonth hreply)
  unfold Context.openMonth
  cases typed with
  | none => exact hopened rfl
  | some text =>
      dsimp only
      split
      next year month hparse =>
        refine hopened ?_
        rw [typedMonth?, hparse]
      next => exact achieves_giveUp_bind _ _

theorem achieves_addIncome (ctx : Context) (h : Integrity l) (title typed : String)
    (month : Option String) (notes : String) :
    (addIncome ctx title typed month notes).Achieves
      (Command.IsMetBy ⟨ctx.today, reader⟩ (.addIncome title typed month notes)) l := by
  refine achieves_openMonth_bind h fun year number id opened hmonth hopened hid => ?_
  unfold Context.amount
  refine achieves_attempt_bind fun amount _ =>
    achieves_request_bind fun later reply hlater hreply => .inl ⟨rfl, year, number, hmonth, ?_⟩
  obtain ⟨row, hrow, hrowId, hrowMonth, hrowTitle⟩ := Ledger.addIncome_mem hreply
  exact ⟨row, hrow, hrowId, hrowTitle,
    hrowMonth ▸ hid.of_keepsDates (hlater.keepsDates_reply hopened hreply)⟩

theorem achieves_addPayment (ctx : Context) (h : Integrity l) (title typed : String)
    (month : Option String) (typeId : Int) (notes : String) :
    (addPayment ctx title typed month typeId notes).Achieves
      (Command.IsMetBy ⟨ctx.today, reader⟩ (.addPayment title typed month typeId notes)) l := by
  refine achieves_openMonth_bind h fun year number id opened hmonth hopened hid => ?_
  unfold Context.amount
  refine achieves_attempt_bind fun cost _ =>
    achieves_request_bind fun later reply hlater hreply => .inl ⟨rfl, year, number, hmonth, ?_⟩
  obtain ⟨row, hrow, hrowId, hrowMonth, hrowTitle⟩ := Ledger.addPayment_mem hreply
  exact ⟨row, hrow, hrowId, hrowTitle,
    hrowMonth ▸ hid.of_keepsDates (hlater.keepsDates_reply hopened hreply)⟩

theorem achieves_addSpend (ctx : Context) (h : Integrity l) (title typed : String)
    (date : Option String) (typeId : Int) (notes : String) :
    (addSpend ctx reader title typed date typeId notes).Achieves
      (Command.IsMetBy ⟨ctx.today, reader⟩ (.addSpend title typed date typeId notes)) l := by
  rcases addSpend_cases ctx reader title typed date typeId notes with
    ⟨day, hday, heq⟩ | ⟨why, heq⟩
  · rw [heq]
    refine achieves_request_bind fun first opened hfirst hopened => .inr ?_
    have hopenedIntegrity := (hfirst.integrity h).handle hopened
    refine achieves_request_bind fun second found hsecond hfound => .inr ?_
    have hfoundIntegrity := (hsecond.integrity hopenedIntegrity).handle hfound
    -- The number of the day is that of the date, and stays so until the spend is added.
    have hisDay : found.ledger.IsDay found.value day := by
      rw [Ledger.Operation.IsReading.ledger_eq (by exact True.intro) hfound]
      exact Ledger.dayOn_isDay hfound
    unfold Context.amount
    refine achieves_attempt_bind fun cost _ =>
      achieves_request_bind fun later reply hlater hreply => .inl ⟨rfl, day, hday, ?_⟩
    obtain ⟨row, hrow, hrowId, hrowDay, hrowTitle⟩ := Ledger.addSpend_mem hreply
    exact ⟨row, hrow, hrowId, hrowTitle,
      hrowDay ▸ hisDay.of_keepsDates (hlater.keepsDates_reply hfoundIntegrity hreply)⟩
  · rw [heq]
    exact achieves_refuseDate why

end Adding

/-- A command that adds an entry cannot succeed without having committed it under its date. -/
theorem body_achieves {l : Ledger} (h : Integrity l) {command : Command} (hadds : command.AddsEntry)
    (policy : CostPolicy) (occasion : Occasion) :
    (body command policy occasion).Achieves (Command.IsMetBy occasion command) l := by
  refine achieves_request_bind fun later reply hlater hreply => .inr ?_
  have hreplyIntegrity := (hlater.integrity h).handle hreply
  cases command with
  | addIncome title typed month notes =>
      exact achieves_addIncome ⟨policy, reply.value, occasion.today⟩ hreplyIntegrity _ _ _ _
  | addPayment title typed month typeId notes =>
      exact achieves_addPayment ⟨policy, reply.value, occasion.today⟩ hreplyIntegrity _ _ _ _ _
  | addSpend title typed date typeId notes =>
      exact achieves_addSpend ⟨policy, reply.value, occasion.today⟩ hreplyIntegrity _ _ _ _ _
  | _ => cases hadds

end Console

end Allowance
