import Allowance.Console.Display
import Allowance.Ledger.Transaction

/-!
# Commands as sequences of requests

A command asks the ledger one request after another and displays lines in between. Each request is
a transaction of its own, so other clients of the ledger may come in between two of them. A request
that fails ends the command with a report.
-/

namespace Allowance.Console

open Ledger (Request)

inductive Ending where
  /-- With a status; zero is success. -/
  | status (code : Nat)
  | usage
  /-- A failure that the program does not report. -/
  | crash (why : Failure)
  deriving Repr

def Ending.code : Ending → Nat
  | status code => code
  | usage => 2
  | crash _ => 1

/-- The status and the line with which a failure is reported, if it is. -/
def report? : Failure → Option (Nat × String)
  | .notFound what => some (2, Markup.red ("Not found: " ++ (Failure.notFound what).message))
  | .conflict why => some (3, Markup.red ("Conflict: " ++ why.message))
  | .hierarchy fault => some (3, Markup.red ("Conflict: " ++ fault.message))
  | .rejected why => some (1, Markup.red ("Error: " ++ why.message))
  | .database fault => some (1, Markup.red ("Database error: " ++ fault.message))
  | _ => none

inductive Program (α : Type) : Type 1 where
  | done (a : α)
  | leave (ending : Ending)
  | display (d : Display) (next : Program α)
  | ask {β : Type} (request : Request β) (next : β → Program α)

namespace Program

def bind {α β : Type} : Program α → (α → Program β) → Program β
  | done a, f => f a
  | leave ending, _ => leave ending
  | display d next, f => display d (next.bind f)
  | ask request next, f => ask request fun answer => (next answer).bind f

instance : Monad Program where
  pure := done
  bind := bind

def say (s : String) : Program Unit :=
  display (.line s) (done ())

def draw (g : Grid) : Program Unit :=
  display (.grid g) (done ())

def request {α : Type} (r : Request α) : Program α :=
  ask r done

/-- Displays a line and ends with status one. -/
def giveUp {α : Type} (s : String) : Program α :=
  display (.line s) (leave (.status 1))

def fail {α : Type} (why : Failure) : Program α :=
  match report? why with
  | some (status, line) => display (.line line) (leave (.status status))
  | none => leave (.crash why)

/-- A result whose failure is reported. -/
def attempt {α : Type} : Except Failure α → Program α
  | .ok a => done a
  | .error why => fail why

/-- A result whose failure is not reported. -/
def insist {α : Type} : Except Failure α → Program α
  | .ok a => done a
  | .error why => leave (.crash why)

end Program

/-- A finished command: the ledger after it, what it displayed and how it ended. -/
structure Run where
  ledger : Ledger
  lines : List Display
  ending : Ending

def Run.failed (l : Ledger) (why : Failure) : Run :=
  match report? why with
  | some (status, line) => ⟨l, [.line line], .status status⟩
  | none => ⟨l, [], .crash why⟩

/-- Runs a command without any other client. -/
def Program.run {α : Type} : Program α → Ledger → Run
  | done _, l => ⟨l, [], .status 0⟩
  | leave ending, l => ⟨l, [], ending⟩
  | display d next, l =>
    let rest := next.run l
    { rest with lines := d :: rest.lines }
  | ask request next, l =>
    match l.handle request with
    | .ok reply => (next reply.value).run reply.ledger
    | .error why => Run.failed (l.after request) why

end Allowance.Console
