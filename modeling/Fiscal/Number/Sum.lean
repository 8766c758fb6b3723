import Fiscal.Fault

set_option autoImplicit false

namespace Fiscal.Number

-- Running state of an exact sum: the units added since the last special term, the same amount as
-- rounded parts from the least to the greatest, the sum of the special terms, and the sum of the
-- infinite ones among them.
structure ExactSum where
  units : Int
  parts : List Float
  special : Float
  infinite : Float

namespace ExactSum

def empty : ExactSum := ⟨0, [], 0, 0⟩

def addPair (x y : Float) : Float × Float :=
  let (large, small) := if x.abs < y.abs then (y, x) else (x, y)
  let sum := large + small
  (sum, small - (sum - large))

def addParts (x : Float) : List Float → List Float × Float
  | [] => ([], x)
  | part :: rest =>
      let (sum, left) := addPair x part
      let (kept, last) := addParts sum rest
      (if left == 0 then kept else left :: kept, last)

def add (sum : ExactSum) (x : Float) : Except Fault ExactSum :=
  if isFinite x then
    let (kept, last) := addParts x sum.parts
    -- A rounded sum of parts may overflow where the exact total does not.
    if isFinite last then
      .ok
        { sum with
          units := sum.units + toUnits x
          parts := if last == 0 then kept else kept ++ [last] }
    else .error .sumOverflow
  else
    -- The total starts afresh, so what follows is checked for overflow by itself.
    .ok
      { units := 0
        parts := []
        special := sum.special + x
        infinite := if isInfinite x then sum.infinite + x else sum.infinite }

def total (sum : ExactSum) : Except Fault Float :=
  if sum.special == 0 then .ok (ofUnits sum.units)
  else if isNaN sum.infinite then .error .opposedInfinities
  else .ok sum.special

end ExactSum

/-- The sum of all terms, rounded once. -/
def exactSum (terms : List Float) : Except Fault Float :=
  (terms.foldlM ExactSum.add ExactSum.empty).bind ExactSum.total

section Pairwise

variable {α : Type} [Add α]

def sumFrom (start : α) (terms : List α) : α :=
  terms.foldl (· + ·) start

-- Eight running sums over a list whose length is a multiple of eight, each over every eighth
-- term.
def laneSums (lanes : List α) : Nat → List α → List α
  | 0, _ => lanes
  | blocks + 1, terms =>
      laneSums (List.zipWith (· + ·) lanes (terms.take 8)) blocks (terms.drop 8)

def joinLanes (zero : α) : List α → α
  | [a, b, c, d, e, f, g, h] => ((a + b) + (c + d)) + ((e + f) + (g + h))
  | lanes => sumFrom zero lanes

def blockSum (zero : α) (terms : List α) : α :=
  if terms.length < 8 then sumFrom zero terms
  else
    -- Eight lanes, then in order what is left over.
    let whole := terms.length / 8 * 8
    sumFrom (joinLanes zero (laneSums (terms.take 8) (terms.length / 8 - 1) (terms.drop 8)))
      (terms.drop whole)

def pairwiseSum (zero : α) (terms : List α) : α :=
  if terms.length ≤ 128 then blockSum zero terms
  else
    -- The first half is made of whole groups of eight.
    let half := terms.length / 2 / 8 * 8
    pairwiseSum zero (terms.take half) + pairwiseSum zero (terms.drop half)
termination_by terms.length
decreasing_by
  all_goals
    simp only [List.length_take, List.length_drop]
    omega

end Pairwise

end Fiscal.Number
