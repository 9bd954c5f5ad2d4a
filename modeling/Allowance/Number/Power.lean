/-!
# Powers of two and ten
-/

namespace Allowance.Number

def twoPow (n : Nat) : Nat :=
  Nat.pow 2 n

def tenPow (n : Nat) : Nat :=
  Nat.pow 10 n

theorem tenPow_zero : tenPow 0 = 1 :=
  rfl

theorem tenPow_succ (n : Nat) : tenPow (n + 1) = tenPow n * 10 :=
  rfl

end Allowance.Number
