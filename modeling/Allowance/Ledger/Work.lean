import Allowance.Ledger.Basic
import Allowance.Ledger.Log

/-!
# Work on a ledger

Work is done in steps on a draft: the ledger as the steps before have left it, and what they have
logged. Any step can fail, and then the draft is left half changed. `Work.transaction` rolls the
changes of its steps back if one of them fails.
-/

namespace Allowance.Ledger

/-- A ledger in the middle of some work, and what has been logged so far. -/
structure Draft where
  ledger : Ledger
  log : List LogEntry

abbrev Work (α : Type) := ExceptT Failure (StateM Draft) α

namespace Work

variable {α : Type}

/-- The outcome of work that begins with a draft, and the draft in which it ends. -/
def perform (work : Work α) (draft : Draft) : Except Failure α × Draft :=
  (StateT.run (ExceptT.run work) draft).run

/-- A check or a look-up, which may fail but changes nothing. -/
def attempt (outcome : Except Failure α) : Work α :=
  ExceptT.mk (pure outcome)

/-- The ledger as it is by now. -/
def current : Work Ledger :=
  return (← get).ledger

def change (f : Ledger → Ledger) : Work Unit :=
  modify fun draft => { draft with ledger := f draft.ledger }

def note (entry : LogEntry) : Work Unit :=
  modify fun draft => { draft with log := draft.log ++ [entry] }

/-- Keeps all changes of some work if it succeeds, and none if it fails. What was logged stays. -/
def transaction (work : Work α) : Work α := do
  let start ← current
  try work
  catch why =>
    change fun _ => start
    throw why

/-- Looks something up in a transaction of its own. -/
def read (find : Ledger → Except Failure α) : Work α :=
  transaction do attempt (find (← current))

end Work

end Allowance.Ledger
