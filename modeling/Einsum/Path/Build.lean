import Einsum.Config
import Einsum.Number.Power
import Einsum.Path.Basic
import Einsum.Path.Order

/-!
Paths from contraction orders, and the path of an expression under a configuration.
-/

namespace Einsum

/-- A position in a list of given length; a negative one counts from the end. -/
def position? (length : Nat) (i : Int) : Option Nat :=
  let k := if i < 0 then i + length else i
  if 0 ≤ k ∧ k < length then some k.toNat else none

def sameLabels (a b : Group) : Bool := a.all (· ∈ b) && b.all (· ∈ a)

/-- Where the labels of the result stand among the remaining ones, unless they agree. -/
def axisPermutation (residual output : Group) : Option (List Nat) :=
  if residual = output then none else some (output.map residual.idxOf)

namespace Path

section

variable (output : Group)

/-- The steps for an order, intermediate results numbered from `n` on. An entry of the order that is
no pair fails at its step. -/
def stepsFrom : Nat → List NamedTensor → List (Except Error (Int × Int)) →
    Except Error (List Step × Option (List Nat))
  | _, _, [] => .ok ([], none)
  | _, _, .error e :: _ => .error e
  | n, live, .ok (i, j) :: rest =>
    match position? live.length i, position? live.length j with
    | some a, some b =>
      let left := live.getD a default
      let right := live.getD b default
      let labels := live.map NamedTensor.labels
      let parts := split left.labels right.labels (needed labels i j output)
      if rest.isEmpty then
        if sameLabels parts.residual output then
          .ok ([⟨left, right, parts.summed, ⟨finalName, output, none⟩⟩],
            axisPermutation parts.residual output)
        else .error (.report { fault := .wrongResult parts.residual output })
      else
        let result : NamedTensor := ⟨intermediateName n, parts.residual, none⟩
        match stepsFrom (n + 1) (replacePair live a b result) rest with
        | .error e => .error e
        | .ok (steps, perm) => .ok (⟨left, right, parts.summed, result⟩ :: steps, perm)
    | _, _ => .error .listIndex

end

def ofEntries (s : Subscripts) (order : List (Except Error (Int × Int))) : Except Error Path :=
  if order.length + 1 ≠ s.inputs.length then
    .error (.report { fault := .orderLength order.length s.inputs.length })
  else match stepsFrom s.output 1 s.operandTensors order with
    | .error e => .error e
    | .ok (steps, perm) => .ok ⟨s, steps, perm⟩

def ofOrder (s : Subscripts) (order : List (Int × Int)) : Except Error Path :=
  ofEntries s (order.map .ok)

def valuePosition : Json → Except Error Int
  | .int n => if isWord n then .ok n else .error .hugeIndex
  | .bool b => .ok (if b then 1 else 0)
  | v => .error (.notAListIndex v.typeName)

def valuePair (v : Json) : Except Error (Int × Int) :=
  match v with
  | .list [i, j] => do return (← valuePosition i, ← valuePosition j)
  | .list items =>
    .error (if items.length < 2 then .tooFewValues 2 items.length else .tooManyValues 2)
  | v => .error (.notIterable v.typeName)

def chooseOrder (s : Subscripts) (c : Config) : Except Report (List Pair) :=
  if c.strategy = .exhaustive ∧ (s.inputs.length : Int) ≤ c.operandLimit then cheapestPairs s
  else .ok (greedyPairs s)

def plan (s : Subscripts) (c : Config) : Except Error Path :=
  if s.inputs.length = 1 then .ok ⟨s, [], none⟩
  else match chooseOrder s c with
    | .error r => .error (.report r)
    | .ok order => ofOrder s (order.map fun (i, j) => ((i : Int), (j : Int)))

end Path

end Einsum
