import Allowance.Money.Scale

/-!
# Calculations on money

A calculation is a list of steps applied one after another. A step that is refused leaves the value
as it was.
-/

namespace Allowance.Money

inductive Step where
  | add (other : Money)
  | sub (other : Money)
  | divide (count : Int)
  | withPrecision (precision : Int)
  | neg
  | abs
  | round
  | ceil
  | floor

def Step.apply (m : Money) : Step → Except Failure Money
  | add other => .ok (m + other)
  | sub other => .ok (m - other)
  | divide count => m.divide count
  | withPrecision precision => m.withPrecision precision
  | neg => .ok (-m)
  | abs => .ok m.abs
  | round => .ok m.round
  | ceil => .ok m.ceil
  | floor => .ok m.floor

/-- The result of every step of a calculation; a step that fails leaves the value as it was. -/
def Step.run (m : Money) : List Step → List (Except Failure Money)
  | [] => []
  | step :: rest =>
    match step.apply m with
    | .ok next => .ok next :: run next rest
    | .error why => .error why :: run m rest

end Allowance.Money
