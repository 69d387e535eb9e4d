import Einsum.Cache
import Einsum.Config
import Einsum.Kernel.Source
import Einsum.Path.Check

/-!
Operations: calls of kernels that carry out the steps of a path.
-/

namespace Einsum

structure Operation where
  kind : KernelKind
  kernel : Kernel
  inputs : List NamedTensor
  result : NamedTensor
  labels : Group
  reused : Bool
deriving DecidableEq, Repr

namespace Operation

variable (op : Operation)

def subscripts : Subscripts := ⟨op.inputs.map NamedTensor.labels, op.result.labels⟩

def inputNames : List String := op.inputs.map NamedTensor.name

def source : String :=
  s!"{op.result.name} = {op.kernel.name}({commaList op.inputNames}, {Text.quote op.labels.text})"

end Operation

/-- Where kernels come from: a cache, if there is one, and a count that tells apart what is made. -/
structure Pool where
  cache : Option Cache := none
  made : Nat := 0
deriving DecidableEq, Repr

namespace Pool

variable (c : Config)

def kernel (pool : Pool) (kind : KernelKind) (pattern : Subscripts) :
    Except Error (Kernel × Bool × Pool) :=
  let fresh := Kernel.emit pool.made pattern kind c.kernelPrefix
  match pool.cache, kind.isReusable && c.cacheKernels with
  | some cache, true =>
    (cache.obtain (Kernel.key pattern kind c.kernelPrefix) fresh).map fun (k, found, cache) =>
      (k, found, ⟨some cache, pool.made + 1⟩)
  | cache, _ => fresh.map fun k => (k, false, ⟨cache, pool.made + 1⟩)

def lower (pool : Pool) (s : Subscripts) (inputs : List NamedTensor) (result : NamedTensor) :
    Except Error (Operation × Pool) :=
  let kind := s.kind c.specialCases
  (pool.kernel c kind s.canonical).map fun (k, reused, pool) =>
    (⟨kind, k, inputs, result, s.labels, reused⟩, pool)

def lowerSteps : Pool → List Step → Except Error (List Operation × Pool)
  | pool, [] => .ok ([], pool)
  | pool, s :: steps =>
    match pool.lower c s.subscripts [s.left, s.right] s.result with
    | .error e => .error e
    | .ok (op, pool) =>
      (lowerSteps pool steps).map fun (ops, pool) => (op :: ops, pool)

def lowerSingle (pool : Pool) (s : Subscripts) : Except Error (Operation × Pool) :=
  match s.operandTensors with
  | [operand] => pool.lower c s [operand] ⟨finalName, s.output, none⟩
  | [] => .error (.tooFewValues 1 0)
  | _ => .error (.tooManyValues 1)

def lowerPath (pool : Pool) (p : Path) : Except Error (List Operation × Pool) :=
  if p.steps.isEmpty then (pool.lowerSingle c p.subscripts).map fun (op, pool) => ([op], pool)
  else match p.check with
    | .error r => .error (.report r)
    | .ok () => pool.lowerSteps c p.steps

end Pool

end Einsum
