import Einsum.Log.Basic
import Einsum.Session

/-!
What is logged while expressions are compiled. The events follow from the input alone, so that
compiling itself need not mention them.
-/

namespace Einsum.Log

def note (logger message : String) : Event := { logger, level := .debug, message := .text message }

def parseEvents (text : String) (e : Expression) : List Event :=
  if e.explicit then []
  else [note "einc.core.parser"
    s!"Inferred implicit output '{e.subscripts.output.text}' for '{text}'"]

def residual (s : Step) (output : Group) : Group :=
  (firsts (s.left.labels ++ s.right.labels)).filter (· ∈ output)

def stepEvent (s : Step) : Event :=
  let summed := if s.summed.isEmpty then "-" else s.summed.text
  note "einc.core.planner" s!"Planned step {s.text} (summed: {summed})"

def permutationEvents (p : Path) : List Event :=
  match p.permutation, p.steps.getLast? with
  | some _, some s =>
    let output := p.subscripts.output
    [note "einc.core.planner" s!"Permuting final axes {(residual s output).text} -> {output.text}"]
  | _, _ => []

def limitEvents (s : Subscripts) (c : Config) : List Event :=
  let count := s.inputs.length
  if c.strategy = .exhaustive ∧ count ≠ 1 ∧ c.operandLimit < count then
    [note "einc.core.planner"
      s!"Exhaustive planning limited to {c.operandLimit} operands; using greedy for {count}"]
  else []

def planEvents (p : Path) (c : Config) : List Event :=
  limitEvents p.subscripts c ++ p.steps.dropLast.map stepEvent ++ permutationEvents p ++
    p.steps.getLast?.toList.map stepEvent

def cacheEvents (cached : Bool) (op : Operation) (namePrefix : String) : List Event :=
  let key := Kernel.key op.kernel.pattern op.kind namePrefix
  if !cached then []
  else if op.reused then [note "einc.core.cache" s!"Pattern cache hit for {key}"]
  else [note "einc.core.cache" s!"Pattern cache miss for {key}; emitted {op.kernel.name}"]

def loweringEvents (cached : Bool) (c : Config) (op : Operation) : List Event :=
  let reuse := if op.reused then " (reused kernel)" else ""
  cacheEvents (cached && c.cacheKernels && op.kind.isReusable) op c.kernelPrefix ++
    [note "einc.core.codegen" s!"Lowered {op.subscripts} as {op.kind.name}{reuse}"]

def compileEvents (pool : Pool) (c : Config) (text : String) (operands : Int) : List Event :=
  match parse text with
  | .error _ => []
  | .ok e =>
    parseEvents text e ++
    match e.check operands, Path.plan e.subscripts c with
    | .ok (), .ok p =>
      planEvents p c ++
      match pool.lowerPath c p with
      | .ok (ops, _) => ops.flatMap (loweringEvents pool.cache.isSome c)
      | .error _ => []
    | _, _ => []

def sessionEvents (s : Session) (text : String) (operands : Int) : List Event :=
  if (s.programs.lookup (text, operands)).isSome then []
  else compileEvents ⟨some s.cache, s.made⟩ s.config text operands

def outcomeEvents (text : String) : Except Error Session.Outcome → List Event
  | .ok (.failed d) => [note "einc.core.program" s!"Expansion of '{text}' failed: {d.message}"]
  | _ => []

def resetEvent (s : Session) : Event :=
  note "einc.core.program"
    s!"Resetting compilation ({s.cache.size} kernels, {s.programs.length} expressions)"

end Einsum.Log
