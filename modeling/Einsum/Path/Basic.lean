import Einsum.Subscripts

/-!
Contraction paths: steps that each contract two named tensors into one.
-/

namespace Einsum

/-- A named tensor inside one expression. An operand also has its position. -/
structure NamedTensor where
  name : String
  labels : Group
  operand : Option Int := none
deriving DecidableEq, Repr, Inhabited

def operandName (position : Nat) : String := s!"arg{position}"

def intermediateName (n : Nat) : String := s!"out{n}"

def finalName : String := intermediateName 0

def operandTensor (position : Nat) (g : Group) : NamedTensor :=
  ⟨operandName position, g, some position⟩

def Subscripts.operandTensors (s : Subscripts) : List NamedTensor :=
  s.inputs.zipIdx.map fun (g, position) => operandTensor position g

structure Step where
  left : NamedTensor
  right : NamedTensor
  summed : Group
  result : NamedTensor
deriving DecidableEq, Repr

namespace Step

def subscripts (s : Step) : Subscripts := ⟨[s.left.labels, s.right.labels], s.result.labels⟩

def text (s : Step) : String :=
  s!"{s.subscripts} | {s.left.name},{s.right.name}->{s.result.name}"

end Step

/-- Steps that reduce the operands to the result. An expression with one operand has none.
The permutation tells how the axes of the last step were rearranged, if they were. -/
structure Path where
  subscripts : Subscripts
  steps : List Step
  permutation : Option (List Nat) := none
deriving DecidableEq, Repr

namespace Path

variable (p : Path)

def kernelSubscripts : List Subscripts :=
  if p.steps.isEmpty then [p.subscripts] else p.steps.map Step.subscripts

def timeOrder : Nat := (p.kernelSubscripts.map Subscripts.timeOrder).foldl max 0

def spaceOrder : Nat := (p.kernelSubscripts.map Subscripts.spaceOrder).foldl max 0

def describe : List String :=
  if p.steps.isEmpty then [s!"{p.subscripts} | {operandName 0}->{finalName}"]
  else p.steps.map Step.text

end Path

end Einsum
