import Einsum.Fault
import Einsum.Path.Split

/-!
Contraction orders. At each step a pair of positions in the list of live tensors is contracted; the
result takes the first position and the second one is removed. Only labels are looked at, never
sizes. The search for a cheapest order goes one call deeper with each contraction. It has no limit
on nested calls here, so that a list of operands too long for such a limit has an order all the
same.
-/

namespace Einsum

abbrev Pair := Nat × Nat

def pairsBelow (n : Nat) : List Pair :=
  (List.range n).flatMap fun i => ((List.range n).filter (i < ·)).map (i, ·)

/-- How a pair compares with others: many shared labels come first, then few axes, then the
position. -/
structure Rank where
  shared : Nat
  axes : Nat
  pair : Pair
deriving DecidableEq, Repr

def Rank.le (a b : Rank) : Bool :=
  b.shared < a.shared || (a.shared == b.shared &&
    (a.axes < b.axes || (a.axes == b.axes &&
      (a.pair.1 < b.pair.1 || (a.pair.1 == b.pair.1 && a.pair.2 ≤ b.pair.2)))))

def rank (live : List Group) (p : Pair) : Rank :=
  let left := live.getD p.1 []
  let right := live.getD p.2 []
  ⟨((firsts left).filter (· ∈ right)).length, left.length + right.length, p⟩

def pairsByRank (live : List Group) : List Pair :=
  (sorted Rank.le ((pairsBelow live.length).map (rank live))).map Rank.pair

/-- Contract the pair of first rank until one tensor is left. -/
def greedyFrom (output : Group) : Nat → List Group → List Pair
  | 0, _ => []
  | fuel + 1, live =>
    match pairsByRank live with
    | [] => []
    | (i, j) :: _ => (i, j) :: greedyFrom output fuel (contractAt output live i j)

def greedyPairs (s : Subscripts) : List Pair := greedyFrom s.output s.inputs.length s.inputs

structure StepCost where
  compute : Nat
  memory : Nat
deriving DecidableEq, Repr

namespace StepCost

def zero : StepCost := ⟨0, 0⟩

def le (a b : StepCost) : Bool :=
  a.compute < b.compute || (a.compute == b.compute && a.memory ≤ b.memory)

def max (a b : StepCost) : StepCost := if b.le a then a else b

end StepCost

def Split.cost (s : Split) : StepCost := ⟨s.residual.length + s.summed.length, s.residual.length⟩

structure Candidate where
  cost : StepCost
  order : List Pair
deriving DecidableEq, Repr

/-- Depth-first search below a partial order, whose pairs are given in reverse. A branch that
already costs as much as the best order found is left. -/
def searchFrom (output : Group) :
    Nat → List Group → List Pair → StepCost → Option Candidate → Option Candidate
  | 0, _, _, _, best => best
  | fuel + 1, live, chosen, cost, best =>
    if best.any (·.cost.le cost) then best
    else if live.length = 1 then some ⟨cost, chosen.reverse⟩
    else (pairsByRank live).foldl (fun best (i, j) =>
      searchFrom output fuel (contractAt output live i j) ((i, j) :: chosen)
        (cost.max (splitAt output live i j).cost) best) best

def cheapestPairs (s : Subscripts) : Except Report (List Pair) :=
  match searchFrom s.output s.inputs.length s.inputs [] .zero none with
  | some best => .ok best.order
  | none => .error { fault := .noOrder s }

end Einsum
