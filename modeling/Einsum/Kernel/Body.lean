import Einsum.Error
import Einsum.Kernel.Block
import Einsum.Kernel.Kind

/-!
The loop nest that evaluates subscripts, for each kind of operation.
-/

namespace Einsum

/-- Deeper nests are flattened. -/
def nestingLimit : Nat := 18

def Subscripts.accesses (s : Subscripts) : List Access :=
  s.inputs.zipIdx.map fun (g, k) => ⟨k, g⟩

def reductionBody (s : Subscripts) : Block :=
  let flat := decide (nestingLimit < s.output.length + s.summed.length)
  let inner :=
    if s.summed.isEmpty then .atom (.assign s.output s.accesses)
    else .seq (.atom .clear) (.seq (loops flat s.summed (.atom (.accumulate s.accesses)))
      (.atom (.flush s.output)))
  loops flat s.output inner

def onlyShared (left right : Group) : Except Error Label :=
  match commonLabels left right with
  | [l] => .ok l
  | [] => .error (.tooFewValues 1 0)
  | _ => .error (.tooManyValues 1)

def firstOther (l : Label) (g : Group) : Except Error Label :=
  match g.find? (· ≠ l) with
  | some m => .ok m
  | none => .error .noFurtherLabel

/-- Rows, then the shared label, then columns; each row element is read once. -/
def matrixProductBody (s : Subscripts) : Except Error Block :=
  match s.inputs with
  | [left, right] => do
    let shared ← onlyShared left right
    let row ← firstOther shared left
    let column ← firstOther shared right
    return nest [row, shared]
      (.seq (.atom (.hold ⟨0, left⟩)) (nest [column] (.atom (.addHeld s.output ⟨1, right⟩))))
  | [] | [_] => .error (.tooFewValues 2 s.inputs.length)
  | _ => .error (.tooManyValues 2)

def diagonalBody (s : Subscripts) : Except Error Block :=
  match s.inputs with
  | [] => .error .listIndex
  | g :: _ =>
    .ok (loops (decide (nestingLimit < s.output.length)) s.output
      (.atom (.assign s.output [⟨0, g⟩])))

def kernelBody (s : Subscripts) : KernelKind → Except Error Block
  | .generalReduction | .trace => .ok (reductionBody s)
  | .matrixProduct => matrixProductBody s
  | .diagonalExtraction => diagonalBody s

end Einsum
