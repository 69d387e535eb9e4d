import Einsum.Label

/-!
Subscripts: a group of labels for each operand and one for the result.
-/

namespace Einsum

structure Subscripts where
  inputs : List Group
  output : Group
deriving DecidableEq, Repr, Inhabited

def joinGroups : List Group → List Char
  | [] => []
  | [g] => g
  | g :: gs => g ++ ',' :: joinGroups gs

namespace Subscripts

variable (s : Subscripts)

def chars : List Char := joinGroups s.inputs ++ '-' :: '>' :: s.output

def text : String := String.ofList s.chars

instance : ToString Subscripts := ⟨text⟩

def axes : Group := s.inputs.flatten

/-- All labels in the order of their first appearance, the operands' before the result's. -/
def labels : Group := firsts (s.axes ++ s.output)

def axisCount (l : Label) : Nat := s.axes.count l

/-- The labels that are reduced away, in ascending order. -/
def summed : Group := sortLabels ((firsts s.axes).filter (· ∉ s.output))

def shared : Group := sortLabels (repeated s.axes)

/-- Evaluation in one loop nest takes `O(N ^ timeOrder)` steps. -/
def timeOrder : Nat := s.output.length + s.summed.length

def spaceOrder : Nat := s.output.length

def relabel (f : Label → Label) : Subscripts := ⟨s.inputs.map (·.map f), s.output.map f⟩

end Subscripts

/-- The letter number `n`, counted from `a` without an end. -/
def letter (n : Nat) : Label := Char.ofNat ('a'.toNat + n)

namespace Subscripts

variable (s : Subscripts)

def canonicalLabel (l : Label) : Label := letter (s.labels.idxOf l)

/-- The labels renamed to `a`, `b`, … in the order of their first appearance, so that subscripts
which differ in names only become the same. -/
def canonical : Subscripts := s.relabel s.canonicalLabel

/-- A name made of the groups: an underscore ends each group, and one more starts the result. -/
def identifier : String :=
  String.ofList (s.inputs.flatMap (· ++ ['_']) ++ '_' :: s.output)

end Subscripts

/-- The result that subscripts without an arrow stand for: the labels of exactly one axis, in
ascending order. -/
def impliedOutput (inputs : List Group) : Group :=
  sortLabels ((firsts inputs.flatten).filter fun l => inputs.flatten.count l = 1)

end Einsum
