import Einsum.Program

/-!
Descriptions of compiled expressions.
-/

namespace Einsum

def Operation.summary (op : Operation) : Json :=
  .object
    [("step", .text op.subscripts.text),
     ("inputs", .list (op.inputNames.map .text)),
     ("result", .text op.result.name),
     ("kind", .text op.kind.name),
     ("kernel", .text op.kernel.name),
     ("reused", .bool op.reused)]

namespace Program

variable (p : Program)

def permutationSummary : Json :=
  match p.path.permutation with
  | none => .null
  | some axes => .list (axes.map fun axis : Nat => .int axis)

def summary : Json :=
  .object
    [("subscripts", .text p.subscripts.text),
     ("digest", .text p.digest),
     ("compute_order", .int p.path.timeOrder),
     ("memory_order", .int p.path.spaceOrder),
     ("permutation", p.permutationSummary),
     ("steps", .list (p.operations.map Operation.summary))]

def stepLine (op : Operation) (text : String) : String :=
  let reuse := if op.reused then " (reused)" else ""
  s!"[step] {text} kind={op.kind.name} kernel={op.kernel.name}{reuse}"

def permutationLines : List String :=
  match p.path.permutation with
  | none => []
  | some axes => ["[permute] axes=(" ++ ",".intercalate (axes.map toString) ++ ")"]

def explainLines : List String :=
  [s!"[einsum] {p.subscripts}"] ++ List.zipWith stepLine p.operations p.path.describe ++
    p.permutationLines ++
    [s!"[order] compute=O(N^{p.path.timeOrder}) memory=O(N^{p.path.spaceOrder})"]

def explain : String := "\n".intercalate p.explainLines

end Program

end Einsum
