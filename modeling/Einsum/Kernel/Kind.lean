import Einsum.Subscripts

/-!
Kinds of operations.
-/

namespace Einsum

inductive KernelKind where
  | generalReduction
  | matrixProduct
  | diagonalExtraction
  | trace
deriving DecidableEq, Repr

namespace KernelKind

def all : List KernelKind := [generalReduction, matrixProduct, diagonalExtraction, trace]

def name : KernelKind → String
  | generalReduction => "general_reduction"
  | matrixProduct => "matrix_product"
  | diagonalExtraction => "diagonal_extraction"
  | trace => "trace"

def ofName? (name : String) : Option KernelKind := all.find? (·.name = name)

/-- Kernels of diagonals and traces are emitted anew each time. -/
def isReusable : KernelKind → Bool
  | generalReduction | matrixProduct => true
  | diagonalExtraction | trace => false

end KernelKind

def commonLabels (left right : Group) : Group := (firsts left).filter (· ∈ right)

namespace Subscripts

/-- Two matrices with distinct labels that share exactly one, which the result lacks; the result has
the two others. -/
def isMatrixProduct (s : Subscripts) : Bool :=
  match s.inputs with
  | [left, right] =>
    left.length == 2 && right.length == 2 &&
    (firsts left).length == 2 && (firsts right).length == 2 &&
    match commonLabels left right with
    | [l] =>
      let free := (left ++ right).filter (· ≠ l)
      !s.output.contains l && s.output.length == 2 &&
        s.output.all (· ∈ free) && free.all (· ∈ s.output)
    | _ => false
  | _ => false

def kind (s : Subscripts) (specialCases : Bool) : KernelKind :=
  if !specialCases then .generalReduction
  else match s.inputs with
    | [_, _] => if s.isMatrixProduct then .matrixProduct else .generalReduction
    | [g] =>
      let repeats := repeated g
      if repeats.isEmpty then .generalReduction
      else if s.summed.isEmpty then .diagonalExtraction
      else if repeats.any (· ∉ s.output) then .trace
      else .generalReduction
    | _ => .generalReduction

end Subscripts

end Einsum
