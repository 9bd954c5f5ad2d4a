import Allowance.Money.Scale
import Allowance.Month.Basic
import Allowance.Number.Binary64

/-!
# The distribution of costs

Spends counted in intervals of equal width, from the fifth to the ninety-fifth percentile of their
costs rounded outward to whole units, and the bars that show the counts.
-/

namespace Allowance.Statistics

/-- The position of a percentile among a number of ascending values: the nearest rank, within
bounds. -/
def percentileIndex (percent : Int) (count : Nat) : Nat :=
  let rank := -((-percent * count).fdiv 100)
  min (rank - 1).toNat (count - 1)

/-- A percentile of ascending values, of which there has to be one. -/
def percentile (ascending : List Money) (percent : Int) : Except Failure Money :=
  match ascending[percentileIndex percent ascending.length]? with
  | some cost => .ok cost
  | none => .error .noSample

/-- The spends with a cost from the low to the high bound, both included. -/
structure CostInterval where
  low : Money
  high : Money
  count : Nat
  total : Money
  deriving Repr, DecidableEq

namespace CostInterval

def contains (interval : CostInterval) (cost : Money) : Bool :=
  interval.low.atMost cost && cost.atMost interval.high

def add (interval : CostInterval) (cost : Money) : CostInterval :=
  { interval with count := interval.count + 1, total := interval.total + cost }

end CostInterval

/-- Intervals of one width from a bound on; the last one ends at the high bound. -/
def intervalsFrom (high step unit : Money) : Nat → Money → List CostInterval
  | 0, _ => []
  | 1, start => [⟨start, high, 0, Money.zero unit.precision⟩]
  | count + 1, start =>
    let next := start + step
    ⟨start, next - unit, 0, Money.zero unit.precision⟩ :: intervalsFrom high step unit count next

/-- Counts a cost in the first interval that contains it. -/
def countIn (intervals : List CostInterval) (cost : Money) : List CostInterval :=
  match intervals with
  | [] => []
  | interval :: rest =>
    if interval.contains cost then interval.add cost :: rest else interval :: countIn rest cost

/-- The spends counted in a number of intervals of their costs. -/
def costIntervals (rows : List SpendRecord) (count : Int) :
    Except Failure (List CostInterval) := do
  if count ≤ 0 then
    throw (.misuse .noIntervals)
  if rows.isEmpty then
    return []
  let costs := Money.ascending (rows.map (·.cost))
  let low := (← percentile costs 5).floor
  let high := (← percentile costs 95).ceil
  let step := (← (high - low).divide count).round
  let intervals := intervalsFrom high step ⟨1, low.precision⟩ count.toNat low
  return (rows.map (·.cost)).foldl countIn intervals

/-- The width that the bar of the greatest value fills. -/
def barWidth : Int := 40

/-- The length of a bar for a value when the greatest value fills the width: the rounded
floating-point quotient, but at least one for a positive value. -/
def barLength (value greatest width : Int) : Except Failure Int :=
  if greatest ≤ 0 ∨ value ≤ 0 then
    .ok 0
  else
    match Number.Binary64.ofRatio? value greatest.toNat, Number.Binary64.ofInt? width with
    | some share, some width =>
      match (share.mul width).round? with
      | some length => .ok (max 1 length)
      | none => .error .outOfRange
    | _, _ => .error .outOfRange

end Allowance.Statistics
