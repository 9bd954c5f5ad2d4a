import Allowance.Console.Program
import Allowance.Proofs.Ledger.Persistence

/-!
# What a program asks for

A program is a tree whose branches are the answers to its requests. Two shapes of such trees are
closed under sequencing: those that ask for allowed requests only, and those after whose first
request of any other kind nothing can fail. A program of the second shape that fails has left
nothing behind but what its allowed requests do.
-/

namespace Allowance

namespace Console

open Ledger (Operation Request)

theorem report?_ne_zero {why : Failure} {status : Nat} {line : String}
    (h : report? why = some (status, line)) : status ≠ 0 := by
  unfold report? at h
  split at h <;> cases h <;> decide

namespace Program

variable {α β : Type}

/-! ## Sequencing -/

theorem bind_done (p : Program α) : p.bind done = p := by
  induction p with
  | done | leave => rfl
  | display d next ih => rw [bind, ih]
  | ask request next ih =>
      rw [bind]
      congr 1
      exact funext ih

theorem bind_assoc {γ : Type} (p : Program α) (f : α → Program β) (g : β → Program γ) :
    (p.bind f).bind g = p.bind fun a => (f a).bind g := by
  induction p with
  | done | leave => rfl
  | display d next ih => rw [bind, bind, bind, ih]
  | ask request next ih =>
      rw [bind, bind, bind]
      congr 1
      exact funext ih

instance : LawfulMonad Program := LawfulMonad.mk' Program bind_done (fun _ _ => rfl) bind_assoc

/-! ## Programs that ask for allowed requests -/

variable {allowed : Operation → Prop}

/-- Every request that the program may come to is allowed. -/
def Asks (allowed : Operation → Prop) : Program α → Prop
  | done _ => True
  | leave _ => True
  | display _ next => next.Asks allowed
  | ask request next => allowed ⟨request⟩ ∧ ∀ answer, (next answer).Asks allowed

theorem asks_bind {p : Program α} {f : α → Program β} (hp : p.Asks allowed)
    (hf : ∀ a, (f a).Asks allowed) : (p >>= f).Asks allowed := by
  change (p.bind f).Asks allowed
  induction p with
  | done a => exact hf a
  | leave ending => trivial
  | display d next ih => exact ih hp
  | ask request next ih => exact ⟨hp.1, fun answer => ih answer (hp.2 answer)⟩

theorem asks_done (a : α) : (done a).Asks allowed :=
  True.intro

theorem asks_leave (ending : Ending) : (leave ending : Program α).Asks allowed :=
  True.intro

theorem asks_say (line : String) : (say line).Asks allowed :=
  True.intro

theorem asks_draw (grid : Grid) : (draw grid).Asks allowed :=
  True.intro

theorem asks_giveUp (line : String) : (giveUp line : Program α).Asks allowed :=
  True.intro

theorem asks_fail (why : Failure) : (fail why : Program α).Asks allowed := by
  unfold fail
  split <;> exact True.intro

theorem asks_attempt (x : Except Failure α) : (attempt x).Asks allowed := by
  cases x with
  | ok a => exact asks_done a
  | error why => exact asks_fail why

theorem asks_insist (x : Except Failure α) : (insist x).Asks allowed := by
  cases x <;> exact True.intro

theorem asks_request {request : Request α} (h : allowed ⟨request⟩) :
    (Program.request request).Asks allowed :=
  ⟨h, fun _ => trivial⟩

theorem asks_mapM {items : List α} {f : α → Program β} (hf : ∀ a, (f a).Asks allowed) :
    (items.mapM f).Asks allowed := by
  induction items with
  | nil => exact asks_done []
  | cons item rest ih =>
      rw [List.mapM_cons]
      exact asks_bind (hf item) fun _ => asks_bind ih fun _ => asks_done _

/-! ## Programs that change the ledger last -/

/-- Nothing can go wrong any more: the program displays lines and ends with success. -/
def Succeeds : Program α → Prop
  | done _ => True
  | leave _ => False
  | display _ next => next.Succeeds
  | ask _ _ => False

theorem succeeds_say (line : String) : (say line).Succeeds :=
  True.intro

theorem succeeds_bind {p : Program α} {f : α → Program β} (hp : p.Succeeds)
    (hf : ∀ a, (f a).Succeeds) : (p >>= f).Succeeds := by
  change (p.bind f).Succeeds
  induction p with
  | done a => exact hf a
  | leave | ask => cases hp
  | display d next ih => exact ih hp

theorem Succeeds.run {p : Program α} (h : p.Succeeds) (l : Ledger) :
    (p.run l).ending.code = 0 := by
  induction p with
  | done => rfl
  | leave | ask => cases h
  | display d next ih => exact ih h

/-- After a request that is not harmless the program succeeds, unless this request itself fails. -/
def ChangesLast (harmless : Operation → Prop) : Program α → Prop
  | done _ => True
  | leave _ => True
  | display _ next => next.ChangesLast harmless
  | ask request next =>
    (harmless ⟨request⟩ ∧ ∀ answer, (next answer).ChangesLast harmless) ∨
      ∀ answer, (next answer).Succeeds

theorem Asks.changesLast {p : Program α} (h : p.Asks allowed) : p.ChangesLast allowed := by
  induction p with
  | done | leave => trivial
  | display d next ih => exact ih h
  | ask request next ih => exact .inl ⟨h.1, fun answer => ih answer (h.2 answer)⟩

theorem changesLast_bind {p : Program α} {f : α → Program β} (hp : p.Asks allowed)
    (hf : ∀ a, (f a).ChangesLast allowed) : (p >>= f).ChangesLast allowed := by
  change (p.bind f).ChangesLast allowed
  induction p with
  | done a => exact hf a
  | leave ending => trivial
  | display d next ih => exact ih hp
  | ask request next ih => exact .inl ⟨hp.1, fun answer => ih answer (hp.2 answer)⟩

theorem changesLast_request {request : Request α} {f : α → Program β}
    (hf : ∀ a, (f a).Succeeds) : (Program.request request >>= f).ChangesLast allowed :=
  .inr hf

theorem run_failed_ledger (l : Ledger) (why : Failure) : (Run.failed l why).ledger = l := by
  unfold Run.failed
  split <;> rfl

/-- A program that changes the ledger last has succeeded, or has changed the ledger at most by
harmless requests. -/
theorem ChangesLast.run {related : Ledger → Ledger → Prop} (hrefl : ∀ l, related l l)
    (htrans : ∀ {a b c}, related a b → related b c → related a c)
    (hstep : ∀ {l : Ledger} {β : Type} {request : Request β} {reply : Ledger.Reply β},
      allowed ⟨request⟩ → l.handle request = .ok reply → related l reply.ledger)
    {p : Program α} (h : p.ChangesLast allowed) (l : Ledger) :
    (p.run l).ending.code = 0 ∨ related l (p.run l).ledger := by
  induction p generalizing l with
  | done | leave => exact .inr (hrefl l)
  | display d next ih => exact ih h l
  | ask request next ih =>
      rw [Program.run]
      split
      next reply hreply =>
        rcases h with ⟨hharmless, hnext⟩ | hnext
        · exact (ih reply.value (hnext reply.value) reply.ledger).imp_right
            (htrans (hstep hharmless hreply))
        · exact .inl ((hnext reply.value).run reply.ledger)
      next why hfails =>
        rw [run_failed_ledger, Ledger.after_of_error hfails]
        exact .inr (hrefl l)

-- Texts that programs read and display would be evaluated if these shapes were looked into.
attribute [irreducible] Asks Succeeds ChangesLast

end Program

end Console

end Allowance
