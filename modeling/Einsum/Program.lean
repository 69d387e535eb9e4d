import Einsum.Digest
import Einsum.Json.Basic
import Einsum.Kernel.Call
import Einsum.Operation
import Einsum.Path.Build
import Einsum.Subscripts.Check

/-!
Compiled expressions: operations in the order in which they run, their source text, and what they
compute.
-/

namespace Einsum

def entryName : String := "einsum_expr"

def distinctBy {α κ : Type} [DecidableEq κ] (key : α → κ) : List α → List α
  | [] => []
  | a :: as => a :: (distinctBy key as).filter (key · ≠ key a)

/-- The kernels of operations, one for each name. -/
def linkedKernels (ops : List Operation) : List Kernel :=
  distinctBy Kernel.name (ops.map Operation.kernel)

namespace Path

variable (p : Path) (ops : List Operation)

def operandNames : List String := p.subscripts.operandTensors.map NamedTensor.name

def functionSource (entry : String) : String :=
  "\n".intercalate ([s!"def {entry}({commaList p.operandNames}):",
    line 1 s!"# einsum: {p.subscripts}"] ++
    ops.map (fun op => line 1 op.source) ++ [line 1 s!"return {finalName}"]) ++ "\n"

def fullSource (entry : String) : String :=
  "\n\n".intercalate ((linkedKernels ops).map Kernel.source ++ [p.functionSource ops entry])

end Path

structure Program where
  serial : Nat
  path : Path
  operations : List Operation
deriving DecidableEq, Repr

namespace Program

variable (p : Program)

def subscripts : Subscripts := p.path.subscripts

def operandCount : Nat := p.subscripts.inputs.length

def kernels : List Kernel := linkedKernels p.operations

def source : String := p.path.fullSource p.operations entryName

def digest : String := Digest.ofText p.source

section

variable {α : Type} (arith : Arithmetic α)

abbrev Environment (α : Type) := List (String × Tensor α)

def Environment.find (env : Environment α) (name : String) : Except Error (Tensor α) :=
  match env.lookup name with
  | some t => .ok t
  | none => .error (.unbound name)

/-- An operation calls the kernel that its name stands for in the program. -/
def runOperation (env : Environment α) (op : Operation) : Except Error (Environment α) := do
  match p.kernels.find? (·.name = op.kernel.name) with
  | none => throw (.unbound op.kernel.name)
  | some k =>
    let operands ← op.inputNames.mapM (Environment.find env)
    let result ← k.call arith op.labels operands
    return (op.result.name, result) :: env

def checkArity (actual : Nat) : Except Report Unit :=
  if actual = p.operandCount then .ok ()
  else .error { fault := .arity p.operandCount actual }

def evaluate (operands : List (Tensor α)) : Except Error (Tensor α) := do
  (p.checkArity operands.length).mapError .report
  let env ← p.operations.foldlM (p.runOperation arith) (p.path.operandNames.zip operands)
  Environment.find env finalName

end

end Program

def compileKernels : List Kernel → Except Error Unit
  | [] => .ok ()
  | k :: ks =>
    match k.compile with
    | .error e => .error e
    | .ok () => compileKernels ks

namespace Pool

variable (pool : Pool) (c : Config) (text : String) (operands : Int)

def build : Except Error (Program × Pool) := do
  let e ← (parse text).mapError .report
  (e.check operands).mapError .report
  let path ← Path.plan e.subscripts c
  let (ops, pool) ← pool.lowerPath c path
  return (⟨pool.made, path, ops⟩, { pool with made := pool.made + 1 })

/-- A program whose kernels are ready to run. Kernels that were made stay in the pool even if they
turn out not to be. -/
def compile : Except Error Program × Pool :=
  match pool.build c text operands with
  | .error e => (.error e, pool)
  | .ok (program, pool) => ((compileKernels program.kernels).map fun _ => program, pool)

end Pool

end Einsum
