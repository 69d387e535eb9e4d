import Einsum.Proofs.Location
import Einsum.Proofs.Session

namespace Einsum

def Kernel.plain (k : Kernel) : Kernel := { k with serial := 0 }

def Operation.plain (op : Operation) : Operation :=
  { op with kernel := op.kernel.plain, reused := false }

def Program.plain (p : Program) : Program := ⟨0, p.path, p.operations.map Operation.plain⟩

section

variable {ops : List Operation}

theorem distinctBy_map {α β κ : Type} [DecidableEq κ] (key : α → κ) (key' : β → κ)
    (f : α → β) (h : ∀ a, key' (f a) = key a) (as : List α) :
    distinctBy key' (as.map f) = (distinctBy key as).map f := by
  induction as with
  | nil => rfl
  | cons a as ih =>
    rw [List.map_cons, distinctBy, distinctBy, List.map_cons, ih, List.filter_map]
    simp only [Function.comp_def, h]

theorem linkedKernels_plain (ops : List Operation) :
    linkedKernels (ops.map Operation.plain) = (linkedKernels ops).map Kernel.plain := by
  have hk : (ops.map Operation.plain).map Operation.kernel =
      (ops.map Operation.kernel).map Kernel.plain := by
    rw [List.map_map, List.map_map]
    rfl
  rw [linkedKernels, hk, linkedKernels]
  exact distinctBy_map Kernel.name Kernel.name Kernel.plain (fun _ => rfl) _

theorem compileKernels_plain (ks : List Kernel) :
    compileKernels (ks.map Kernel.plain) = compileKernels ks := by
  induction ks with
  | nil => rfl
  | cons k ks ih =>
    have hk : k.plain.compile = k.compile := rfl
    rw [List.map_cons, compileKernels, compileKernels, hk, ih]

end

namespace Program

variable (p : Program)

theorem kernels_plain : p.plain.kernels = p.kernels.map Kernel.plain :=
  linkedKernels_plain p.operations

theorem source_plain : p.plain.source = p.source := by
  have hks : (linkedKernels p.plain.operations).map Kernel.source =
      (linkedKernels p.operations).map Kernel.source := by
    rw [plain, linkedKernels_plain, List.map_map]
    rfl
  have hops : p.plain.operations.map (fun op => line 1 op.source) =
      p.operations.map fun op => line 1 op.source := by
    rw [plain, List.map_map]
    rfl
  have hpath : p.plain.path = p.path := rfl
  rw [source, source, Path.fullSource, Path.fullSource, hks, Path.functionSource,
    Path.functionSource, hops, hpath]

theorem runOperation_plain {α : Type} (arith : Arithmetic α) (env : Environment α)
    (op : Operation) :
    p.plain.runOperation arith env op.plain = p.runOperation arith env op := by
  have hfind : p.plain.kernels.find? (·.name = op.kernel.name) =
      (p.kernels.find? (·.name = op.kernel.name)).map Kernel.plain := by
    rw [kernels_plain, List.find?_map]
    rfl
  have hname : op.plain.kernel.name = op.kernel.name := rfl
  rw [runOperation, runOperation, hname, hfind]
  cases p.kernels.find? (·.name = op.kernel.name) with
  | none => rfl
  | some k => rfl

theorem call_plain (operands : List Operand) : p.plain.call operands = p.call operands := by
  have hrun (env : Environment Scalar) : p.plain.operations.foldlM
      (p.plain.runOperation Scalar.arithmetic) env =
      p.operations.foldlM (p.runOperation Scalar.arithmetic) env := by
    rw [plain, List.foldlM_map]
    congr 1
    funext env op
    exact p.runOperation_plain Scalar.arithmetic env op
  have heval (ts : List (Tensor Scalar)) :
      p.plain.evaluate Scalar.arithmetic ts = p.evaluate Scalar.arithmetic ts := by
    rw [evaluate, evaluate, hrun]
    rfl
  rw [call, call]
  simp only [heval]
  rfl

end Program

section

variable {c : Config} {s : Subscripts} {pool : Pool}

theorem emit_plain (serial : Nat) (pattern : Subscripts) (kind : KernelKind) (word : String) :
    (Kernel.emit serial pattern kind word).map Kernel.plain = Kernel.emit 0 pattern kind word := by
  rw [Kernel.emit, Kernel.emit]
  cases kernelBody pattern kind with
  | error e => rfl
  | ok b => rfl

theorem Cache.Sound.emit_of_get? {cache : Cache} (h : cache.Sound) {pattern : Subscripts}
    (hp : pattern.Validated) (hn : pattern.inputs ≠ []) {kind : KernelKind} {word : String}
    {k : Kernel} (hk : cache.get? (Kernel.key pattern kind word) = some k) :
    Kernel.emit 0 pattern kind word = .ok k.plain := by
  obtain ⟨before, after, he, -⟩ := List.lookup_eq_some_iff.mp hk
  have hmem : (Kernel.key pattern kind word, k) ∈ cache.entries := by
    rw [he]
    exact List.mem_append_right _ List.mem_cons_self
  obtain ⟨serial, pattern', kind', word', hp', hn', hkey, hemit⟩ := h _ hmem
  obtain ⟨rfl, hname, rfl⟩ := Kernel.key_inj hp.delimited hp'.delimited hn hn' hkey
  rw [Kernel.emit, ← hname] at hemit
  rw [← emit_plain serial, Kernel.emit, hemit]
  rfl

theorem Pool.Sound.kernel (h : pool.Sound) (hs : s.Validated) (hn : s.inputs ≠ [])
    (kind : KernelKind) :
    (pool.kernel c kind s.canonical).map (fun r => r.1.plain) =
      Kernel.emit 0 s.canonical kind c.kernelPrefix := by
  rw [Pool.kernel]
  dsimp only
  split
  next cache hc _ =>
    rw [Cache.obtain]
    split
    next k hk =>
      exact ((h cache hc).emit_of_get? hs.canonical (Subscripts.canonical_inputs_ne_nil hn) hk).symm
    next =>
      rw [← emit_plain pool.made]
      cases Kernel.emit pool.made s.canonical kind c.kernelPrefix <;> rfl
  next =>
    rw [← emit_plain pool.made]
    cases Kernel.emit pool.made s.canonical kind c.kernelPrefix <;> rfl

def freshOperation (c : Config) (s : Subscripts) (inputs : List NamedTensor)
    (result : NamedTensor) :
    Except Error Operation :=
  (Kernel.emit 0 s.canonical (s.kind c.specialCases) c.kernelPrefix).map fun k =>
    ⟨s.kind c.specialCases, k, inputs, result, s.labels, false⟩

def Path.freshOperations (c : Config) (p : Path) : Except Error (List Operation) :=
  if p.steps.isEmpty then
    (freshOperation c p.subscripts p.subscripts.operandTensors
      (finalTensor p.subscripts.output)).map ([·])
  else p.steps.mapM fun s => freshOperation c s.subscripts s.reads s.result

theorem Pool.Sound.lower (h : pool.Sound) (hs : s.Validated) (hn : s.inputs ≠ [])
    (inputs : List NamedTensor) (result : NamedTensor) :
    (pool.lower c s inputs result).map (fun r => r.1.plain) = freshOperation c s inputs result := by
  rw [freshOperation, ← h.kernel hs hn, Pool.lower]
  cases pool.kernel c (s.kind c.specialCases) s.canonical <;> rfl

theorem Pool.Sound.lowerSteps {steps : List Step} (h : pool.Sound)
    (hs : ∀ s ∈ steps, s.subscripts.Validated) :
    (Pool.lowerSteps c pool steps).map (fun r => r.1.map Operation.plain) =
      steps.mapM fun s => freshOperation c s.subscripts s.reads s.result := by
  induction steps generalizing pool with
  | nil => rfl
  | cons s steps ih =>
    rw [List.forall_mem_cons] at hs
    have hn : s.subscripts.inputs ≠ [] := List.cons_ne_nil _ _
    obtain ⟨op, pool', hop, -, -, -, hp⟩ := pool_lower (c := c) pool hs.1 hn s.reads s.result
    have hplain := h.lower (c := c) hs.1 hn s.reads s.result
    rw [hop] at hplain
    have hrest := ih (hp h).2 hs.2
    rw [List.mapM_cons, ← hplain, ← hrest, Pool.lowerSteps]
    have hop' : pool.lower c s.subscripts [s.left, s.right] s.result = .ok (op, pool') := hop
    rw [hop']
    dsimp only
    cases Pool.lowerSteps c pool' steps <;> rfl

theorem Pool.Sound.lowerPath {p : Path} (h : pool.Sound) (hs : p.subscripts.Validated)
    (hr : p.Reaches) :
    (pool.lowerPath c p).map (fun r => r.1.map Operation.plain) = p.freshOperations c := by
  rw [Pool.lowerPath, Path.freshOperations]
  rcases hr with ⟨hn, hl⟩ | ⟨hn, hc⟩
  · obtain ⟨g, hg⟩ := List.length_eq_one_iff.mp hl
    have ht : p.subscripts.operandTensors = [operandTensor 0 g] := by
      simp [Subscripts.operandTensors, hg]
    have hop :=
      h.lower (c := c) hs (by simp [hg]) [operandTensor 0 g] (finalTensor p.subscripts.output)
    simp only [hn, List.isEmpty_nil, if_true, Pool.lowerSingle, ht]
    rw [← hop]
    change ((pool.lower c p.subscripts [operandTensor 0 g] (finalTensor p.subscripts.output)).map
      _).map _ = _
    cases pool.lower c p.subscripts [operandTensor 0 g] (finalTensor p.subscripts.output) <;> rfl
  · have he : p.steps.isEmpty = false := by simpa using hn
    have hcheck : p.check = .ok () := check_of_contracts hs hc
    simp only [he, hcheck]
    exact h.lowerSteps (validated_steps hs hc)

end

section

variable {c : Config} {text : String} {n : Int} {pool : Pool}

theorem Refused.build {r : Report} (h : Refused text n r) (c : Config) (pool : Pool) :
    pool.build c text n = .error (.report r) := by
  cases h with
  | parse h =>
    rw [Pool.build, h]
    rfl
  | check hp hc =>
    rw [Pool.build, hp]
    simp only [Except.mapError, ok_bind, hc]
    rfl

/-- A text that is refused leaves the pool alone. -/
theorem Refused.compile {r : Report} (h : Refused text n r) (c : Config) (pool : Pool) :
    pool.compile c text n = (.error (.report r), pool) := by
  rw [Pool.compile, h.build]

theorem Pool.Sound.compile_of_checked (h : pool.Sound) {e : Expression} (hp : parse text = .ok e)
    (hc : e.check n = .ok ()) (c : Config) :
    ∃ p pool', pool.build c text n = .ok (p, pool') ∧ p.IsFor c e ∧ pool'.Sound ∧
      p.path.freshOperations c = .ok p.plain.operations ∧
        pool.compile c text n = ((compileKernels p.kernels).map fun _ => p, pool') := by
  obtain ⟨p, pool', hb, hfor, hs⟩ := build_eq_ok (c := c) hp hc h
  refine ⟨p, pool', hb, hfor, hs, ?_, by rw [Pool.compile, hb]⟩
  have hv := validated_of_parse hp hc
  rw [← h.lowerPath (hfor.subscripts hp hc ▸ hv) (hfor.reaches hp hc)]
  simp only [Pool.build, hp, Except.mapError, ok_bind, hc, hfor.path] at hb
  obtain ⟨⟨ops, pool₁⟩, hl, hr⟩ := bind_eq_ok hb
  have hops : ops = p.operations := congrArg (fun r => r.1.operations) (Except.ok.inj hr)
  rw [hl, hops]
  rfl

/-- Sharing aside, sound pools compile a text to the same. -/
theorem Pool.Sound.compile_plain {pool' : Pool} (h : pool.Sound) (h' : pool'.Sound) (c : Config)
    (text : String) (n : Int) :
    (pool.compile c text n).1.map Program.plain = (pool'.compile c text n).1.map Program.plain := by
  rcases refused_or_checked text n with ⟨r, hr⟩ | ⟨e, hp, hc⟩
  · rw [hr.compile, hr.compile]
  · obtain ⟨p, _, -, hfor, -, hops, hcomp⟩ := h.compile_of_checked hp hc c
    obtain ⟨q, _, -, hfor', -, hops', hcomp'⟩ := h'.compile_of_checked hp hc c
    have hpath : p.path = q.path := Except.ok.inj (hfor.path.symm.trans hfor'.path)
    have heq : p.plain = q.plain := by
      rw [hpath] at hops
      have hsame := Except.ok.inj (hops.symm.trans hops')
      rw [Program.plain, hpath]
      exact congrArg (Program.mk 0 q.path) hsame
    have hkernels : compileKernels p.kernels = compileKernels q.kernels := by
      rw [← compileKernels_plain, ← p.kernels_plain, heq, q.kernels_plain, compileKernels_plain]
    rw [hcomp, hcomp', hkernels]
    cases compileKernels q.kernels with
    | error e => rfl
    | ok => exact congrArg Except.ok heq

end

end Einsum
