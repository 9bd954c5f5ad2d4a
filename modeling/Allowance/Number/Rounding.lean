/-!
# Rounding of quotients

Whole quotients of natural numbers under the rounding rules that amounts, decimals and binary
numbers use. All of them are within one half of the exact quotient.
-/

namespace Allowance.Number

/-- The nearest whole number to a quotient; a tie goes to the even neighbour. -/
def divHalfEven (num den : Nat) : Nat :=
  let floor := num / den
  let twice := 2 * (num % den)
  if twice < den then floor
  else if den < twice then floor + 1
  else floor + floor % 2

/-- The nearest whole number to a quotient; a tie goes up. -/
def divHalfUp (num den : Nat) : Nat :=
  num / den + (if den ≤ 2 * (num % den) then 1 else 0)

end Allowance.Number
