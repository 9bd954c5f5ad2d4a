import Allowance.Proofs.Ledger.Transaction

/-!
# Runs of a ledger

A run handles requests one after another, from a new ledger on. A request that fails is part of a
run as well; it leaves the ledger as it was.
-/

namespace Allowance.Ledger

/-- A request without regard to the type of its answer. -/
structure Operation where
  {answer : Type}
  request : Request answer

/-- The request leaves the ledger as it is, whatever its answer. -/
def Operation.IsReading : Operation → Prop
  | ⟨.prepare _⟩ | ⟨.currency⟩ => True
  | ⟨.month _⟩ | ⟨.monthOn _ _⟩ | ⟨.months⟩ | ⟨.dayOn _⟩ | ⟨.day _⟩ => True
  | ⟨.spendType _⟩ | ⟨.spendTypes⟩ | ⟨.search _⟩ => True
  | _ => False

theorem Operation.IsReading.ledger_eq {α : Type} {l : Ledger} {request : Request α}
    {reply : Reply α} (hreading : Operation.IsReading ⟨request⟩)
    (hreply : l.handle request = .ok reply) : reply.ledger = l := by
  cases request with
  | prepare code =>
      rw [handle_prepare] at hreply
      obtain ⟨_, _, rfl⟩ := Outcome.map_eq_ok.mp hreply
      rfl
  | currency | month | monthOn | months | dayOn | day | spendType | spendTypes | search =>
      obtain ⟨_, _, rfl⟩ := (read_eq_ok rfl).mp hreply
      rfl
  | _ => cases hreading

/-- The ledger after requests in their order. -/
def run (l : Ledger) (operations : List Operation) : Ledger :=
  operations.foldl (fun l operation => l.after operation.request) l

@[simp] theorem run_cons (l : Ledger) (operation : Operation) (rest : List Operation) :
    l.run (operation :: rest) = (l.after operation.request).run rest :=
  rfl

theorem run_concat (l : Ledger) (earlier : List Operation) (operation : Operation) :
    l.run (earlier ++ [operation]) = (l.run earlier).after operation.request := by
  simp only [run, List.foldl_append, List.foldl_cons, List.foldl_nil]

theorem run_append (l : Ledger) (earlier later : List Operation) :
    l.run (earlier ++ later) = (l.run earlier).run later :=
  List.foldl_append

/-- What a run has come to after its first operations is on the way to what it comes to later. -/
theorem run_take_of_le (l : Ledger) (operations : List Operation) {earlier later : Nat}
    (hle : earlier ≤ later) :
    l.run (operations.take later) =
      (l.run (operations.take earlier)).run ((operations.take later).drop earlier) := by
  have hearlier : operations.take earlier = (operations.take later).take earlier := by
    rw [List.take_take, Nat.min_eq_left hle]
  rw [hearlier, ← run_append, List.take_append_drop]

theorem after_of_handle {l : Ledger} {α : Type} {request : Request α} {reply : Reply α}
    (hreply : l.handle request = .ok reply) : l.after request = reply.ledger := by
  rw [after, Work.reply_eq_ok.mp hreply]

/-- A request that fails leaves all tables and counters as they were. -/
theorem after_of_error {l : Ledger} {α : Type} {request : Request α} {why : Failure}
    (hfails : l.handle request = .error why) : l.after request = l :=
  request.isAtomic_work ⟨l, []⟩ why (Work.reply_eq_error.mp hfails)

theorem after_invariant (invariant : Ledger → Prop) {l : Ledger} {α : Type}
    {request : Request α} (hl : invariant l)
    (hstep : ∀ reply, l.handle request = .ok reply → invariant reply.ledger) :
    invariant (l.after request) := by
  cases hreply : l.handle request with
  | ok reply =>
      rw [after_of_handle hreply]
      exact hstep reply hreply
  | error why =>
      rw [after_of_error hreply]
      exact hl

/-- What the allowed requests preserve whenever they succeed holds after every run of them. -/
theorem run_invariant_of_allowed (invariant : Ledger → Prop) (allowed : Operation → Prop)
    (hstep : ∀ (l : Ledger) {α : Type} (request : Request α) (reply : Reply α), allowed ⟨request⟩ →
      invariant l → l.handle request = .ok reply → invariant reply.ledger)
    {l : Ledger} (hl : invariant l) {operations : List Operation}
    (hallowed : ∀ operation ∈ operations, allowed operation) : invariant (l.run operations) := by
  induction operations generalizing l with
  | nil => exact hl
  | cons operation rest ih =>
      obtain ⟨hfirst, hrest⟩ := List.forall_mem_cons.mp hallowed
      rw [run_cons]
      refine ih ?_ hrest
      exact after_invariant invariant hl fun reply => hstep l operation.request reply hfirst hl

/-- What every request that succeeds preserves holds after every run. -/
theorem run_invariant (invariant : Ledger → Prop)
    (hstep : ∀ (l : Ledger) {α : Type} (request : Request α) (reply : Reply α),
      invariant l → l.handle request = .ok reply → invariant reply.ledger)
    {l : Ledger} (hl : invariant l) (operations : List Operation) :
    invariant (l.run operations) :=
  run_invariant_of_allowed invariant (fun _ => True)
    (fun l _ request reply _ => hstep l request reply) hl fun _ _ => trivial

end Allowance.Ledger
