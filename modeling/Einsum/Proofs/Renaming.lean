import Einsum.Proofs.History
import Einsum.Proofs.Relabel
import Einsum.Proofs.Sizes

namespace Einsum

def Fault.relabel (f : Label → Label) : Fault → Fault
  | .rank operand g expected actual => .rank operand (g.map f) expected actual
  | .size l operand axis expected actual => .size (f l) operand axis expected actual
  | fault => fault

def Report.relabel (f : Label → Label) (r : Report) : Report :=
  { r with fault := r.fault.relabel f }

def Operation.relabel (f : Label → Label) (op : Operation) : Operation where
  kind := op.kind
  kernel := op.kernel
  inputs := op.inputs.map (NamedTensor.relabel f)
  result := op.result.relabel f
  labels := op.labels.map f
  reused := op.reused

section

variable {β γ : Type} (f : Label → Label)

/-- The same value, or the same error, a report in other labels. -/
inductive Renamed : Except Error β → Except Error β → Prop
  | ok (b : β) : Renamed (.ok b) (.ok b)
  | error (e : Error) : Renamed (.error e) (.error e)
  | report (r : Report) : Renamed (.error (.report r)) (.error (.report (r.relabel f)))

variable {f}

theorem Renamed.refl (x : Except Error β) : Renamed f x x := by
  cases x with
  | error e => exact .error e
  | ok b => exact .ok b

theorem Renamed.bind {x y : Except Error β} {g g' : β → Except Error γ} (h : Renamed f x y)
    (hg : ∀ b, Renamed f (g b) (g' b)) : Renamed f (x >>= g) (y >>= g') := by
  cases h with
  | ok b => exact hg b
  | error e => exact .error e
  | report r => exact .report r

end

section

variable {f : Label → Label} {labels labels' : Group}

theorem run_renamed {c : Check}
    (hw : ∀ l ∈ c.labels, writtenLabel labels' l = f (writtenLabel labels l))
    (shapes : List Shape) (known : Sizes Nat) :
    c.run labels' shapes known = (c.run labels shapes known).mapError (Report.relabel f) := by
  cases c with
  | rank operand g =>
    have hg : g.map (writtenLabel labels') = (g.map (writtenLabel labels)).map f := by
      rw [List.map_map]
      exact List.map_congr_left hw
    simp only [Check.run, requireRank, hg]
    split <;> rfl
  | bind l operand axis => rfl
  | agree l operand axis =>
    simp only [Check.run, requireSize, hw l List.mem_cons_self]
    split <;> rfl

theorem runChecks_renamed {cs : List Check}
    (hw : ∀ c ∈ cs, ∀ l ∈ c.labels, writtenLabel labels' l = f (writtenLabel labels l))
    (shapes : List Shape) (known : Sizes Nat) :
    runChecks labels' shapes known cs =
      (runChecks labels shapes known cs).mapError (Report.relabel f) := by
  induction cs generalizing known with
  | nil => rfl
  | cons c cs ih =>
    rw [List.forall_mem_cons] at hw
    rw [runChecks, runChecks, run_renamed hw.1]
    cases c.run labels shapes known with
    | error r => rfl
    | ok known' => exact ih hw.2 known'

variable {α : Type} (arith : Arithmetic α)

/-- A kernel looks at the caller's labels for its reports only. -/
theorem call_renamed {k : Kernel}
    (hw : ∀ l ∈ k.pattern.axes, writtenLabel labels' l = f (writtenLabel labels l))
    (ts : List (Tensor α)) : Renamed f (k.call arith labels ts) (k.call arith labels' ts) := by
  have hchecks := runChecks_renamed
    (fun c (hc : c ∈ prologue k.pattern.inputs) l hl => hw l (mem_labels_checksFrom hc hl))
    (ts.map Tensor.shape) []
  rw [Kernel.call, Kernel.call, hchecks]
  apply Renamed.bind (.refl _)
  intro _
  cases runChecks labels (ts.map Tensor.shape) [] (prologue k.pattern.inputs) with
  | error r => exact .report r
  | ok known => exact .refl _

end

section

variable {f : Label → Label} {s : Subscripts} (hf : Set.InjOn f {l | l ∈ s.labels}) {c : Config}

include hf

theorem writtenLabel_relabel (hs : s.Validated) (hs' : (s.relabel f).Validated) {l : Label}
    (hl : l ∈ s.canonical.axes) :
    writtenLabel (s.relabel f).labels l = f (writtenLabel s.labels l) := by
  rw [Subscripts.canonical, Subscripts.axes_relabel] at hl
  obtain ⟨m, hm, rfl⟩ := List.mem_map.mp hl
  have hml : m ∈ s.labels := s.mem_labels.mpr (.inl hm)
  have hfm : f m ∈ (s.relabel f).labels := by
    rw [Subscripts.labels_relabel hf]
    exact List.mem_map_of_mem hml
  rw [Subscripts.writtenLabel_canonicalLabel hs.lettered hml,
    ← Subscripts.canonicalLabel_relabel hf hml, Subscripts.writtenLabel_canonicalLabel
      hs'.lettered hfm]

theorem lower_relabel (pool : Pool) (inputs : List NamedTensor) (result : NamedTensor) :
    pool.lower c (s.relabel f) (inputs.map (NamedTensor.relabel f)) (result.relabel f) =
      (pool.lower c s inputs result).map fun r => (r.1.relabel f, r.2) := by
  rw [Pool.lower, Pool.lower, Subscripts.kind_relabel hf, Subscripts.canonical_relabel hf,
    Subscripts.labels_relabel hf]
  cases pool.kernel c (s.kind c.specialCases) s.canonical <;> rfl

end

theorem lowerSteps_relabel {f : Label → Label} {c : Config} {steps steps' : List Step}
    (h : List.Forall₂ (Step.Renames f) steps steps')
    (hf : ∀ s ∈ steps, Set.InjOn f {l | l ∈ s.subscripts.labels}) (pool : Pool) :
    Pool.lowerSteps c pool steps' =
      (Pool.lowerSteps c pool steps).map fun r => (r.1.map (Operation.relabel f), r.2) := by
  induction h generalizing pool with
  | nil => rfl
  | @cons s s' steps steps' hs _ ih =>
    rw [List.forall_mem_cons] at hf
    have hlower := lower_relabel (c := c) hf.1 pool [s.left, s.right] s.result
    rw [List.map_cons, List.map_singleton, ← hs.subscripts, ← hs.left, ← hs.right,
      ← hs.result] at hlower
    rw [Pool.lowerSteps, Pool.lowerSteps, hlower]
    cases pool.lower c s.subscripts [s.left, s.right] s.result with
    | error e => rfl
    | ok r =>
      dsimp only [Except.map]
      rw [ih hf.2 r.2]
      cases Pool.lowerSteps c r.2 steps <;> rfl

theorem labels_of_step {p : Path} (hs : p.subscripts.Validated)
    (hc : Contracts p.subscripts.output 1 p.subscripts.operandTensors p.steps) :
    ∀ s ∈ p.steps, ∀ l ∈ s.subscripts.labels, l ∈ p.subscripts.labels := by
  intro s hm l hl
  have hv := validated_steps hs hc s hm
  have hax : l ∈ s.subscripts.axes := (s.subscripts.mem_labels.mp hl).elim id (hv.output_subset l)
  have hlive := hc.axes_subset (covers_operandTensors hs) s hm l hax
  rw [axesOf_operandTensors] at hlive
  exact p.subscripts.mem_labels.mpr (.inl hlive)

section

variable {f : Label → Label} {c : Config} {p p' : Path} (h : p.Renames f p')
  (hs : p.subscripts.Validated) (hs' : p'.subscripts.Validated)
  (hf : Set.InjOn f {l | l ∈ p.subscripts.labels})

include h hs hs' hf

theorem lowerPath_relabel (hr : p.Reaches) (hr' : p'.Reaches) (pool : Pool) :
    pool.lowerPath c p' =
      (pool.lowerPath c p).map fun r => (r.1.map (Operation.relabel f), r.2) := by
  rw [Pool.lowerPath, Pool.lowerPath]
  rcases hr with ⟨hn, hl⟩ | ⟨hn, hc⟩
  · have hn' : p'.steps = [] := List.forall₂_nil_left_iff.mp (hn ▸ h.steps)
    obtain ⟨g, hg⟩ := List.length_eq_one_iff.mp hl
    have ht : p.subscripts.operandTensors = [operandTensor 0 g] := by
      simp [Subscripts.operandTensors, hg]
    have ht' : p'.subscripts.operandTensors = [(operandTensor 0 g).relabel f] := by
      rw [h.subscripts, operandTensors_relabel, ht]
      rfl
    have hlower :=
      lower_relabel (c := c) hf pool [operandTensor 0 g] ⟨finalName, p.subscripts.output, none⟩
    simp only [hn, hn', List.isEmpty_nil, if_true, Pool.lowerSingle, ht, ht']
    rw [← h.subscripts] at hlower
    have hout : NamedTensor.relabel f ⟨finalName, p.subscripts.output, none⟩ =
        ⟨finalName, p'.subscripts.output, none⟩ := by
      rw [h.subscripts]
      rfl
    rw [hout, List.map_singleton] at hlower
    rw [hlower]
    cases pool.lower c p.subscripts [operandTensor 0 g]
      ⟨finalName, p.subscripts.output, none⟩ <;> rfl
  · have hn' : p'.steps ≠ [] := by
      intro he
      exact hn (List.forall₂_nil_right_iff.mp (he ▸ h.steps))
    obtain ⟨-, hc'⟩ := hr'.resolve_left fun hx => hn' hx.1
    have he : p.steps.isEmpty = false := by simpa using hn
    have he' : p'.steps.isEmpty = false := by simpa using hn'
    have hcheck : p.check = .ok () := check_of_contracts hs hc
    have hcheck' : p'.check = .ok () := check_of_contracts hs' hc'
    simp only [he, he', hcheck, hcheck']
    exact lowerSteps_relabel h.steps (fun s hm => hf.mono (labels_of_step hs hc s hm)) pool

end

section

variable {f : Label → Label} {c : Config} {α : Type} (arith : Arithmetic α) {p p' : Program}

theorem runOperation_renamed (hk : p'.kernels = p.kernels) {op : Operation} {s : Subscripts}
    {k : Kernel} (hfind : p.kernels.find? (·.name = op.kernel.name) = some k) (hfor : k.IsFor c s)
    (hl : op.labels = s.labels) (hs : s.Validated) (hs' : (s.relabel f).Validated)
    (hf : Set.InjOn f {l | l ∈ s.labels}) (env : Program.Environment α) :
    Renamed f (p.runOperation arith env op) (p'.runOperation arith env (op.relabel f)) := by
  have hnames : (op.relabel f).inputNames = op.inputNames := by
    rw [Operation.inputNames, Operation.relabel, List.map_map]
    rfl
  have hlabels : (op.relabel f).labels = (s.relabel f).labels := by
    rw [Subscripts.labels_relabel hf, ← hl]
    rfl
  have hfind' : p'.kernels.find? (·.name = (op.relabel f).kernel.name) = some k := by
    rw [hk]
    exact hfind
  rw [Program.runOperation, Program.runOperation, hfind, hfind', hnames, hlabels, hl]
  dsimp only
  apply Renamed.bind (.refl _)
  intro ts
  apply Renamed.bind
  · exact call_renamed arith (fun l hm => writtenLabel_relabel hf hs hs' (hfor.pattern ▸ hm)) ts
  · exact fun t => .ok _

theorem foldlM_renamed {ops : List Operation}
    (h : ∀ op ∈ ops, ∀ env, Renamed f (p.runOperation arith env op)
      (p'.runOperation arith env (op.relabel f)))
    (env : Program.Environment α) :
    Renamed f (ops.foldlM (p.runOperation arith) env)
      ((ops.map (Operation.relabel f)).foldlM (p'.runOperation arith) env) := by
  induction ops generalizing env with
  | nil => exact .ok env
  | cons op ops ih =>
    rw [List.forall_mem_cons] at h
    rw [List.map_cons, List.foldlM_cons, List.foldlM_cons]
    exact (h.1 env).bind (ih h.2)

end

theorem linkedKernels_relabel (f : Label → Label) (ops : List Operation) :
    linkedKernels (ops.map (Operation.relabel f)) = linkedKernels ops := by
  rw [linkedKernels, List.map_map]
  rfl

theorem Path.Renames.checkArity {f : Label → Label} {p p' : Path} (h : p.Renames f p')
    (serial n : Nat) (ops ops' : List Operation) :
    (Program.mk serial p' ops').checkArity n = (Program.mk serial p ops).checkArity n := by
  have hlen : p'.subscripts.inputs.length = p.subscripts.inputs.length := by
    rw [h.subscripts]
    exact List.length_map _
  have hcount : (Program.mk serial p' ops').operandCount = (Program.mk serial p ops).operandCount :=
    hlen
  rw [Program.checkArity, Program.checkArity, hcount]

theorem Lowered.linked {c : Config} {p : Path} {ops : List Operation} (h : Lowered c p ops)
    (hs : p.subscripts.Validated) : ∀ op ∈ ops, ∃ s k, Subscripts.Validated s ∧
      (∀ l ∈ s.labels, l ∈ p.subscripts.labels) ∧
        (linkedKernels ops).find? (·.name = op.kernel.name) = some k ∧ k.IsFor c s ∧
          op.labels = s.labels := by
  intro op hop
  cases h with
  | @single op' _ _ kernel _ _ labels =>
    obtain rfl := List.mem_singleton.mp hop
    refine ⟨p.subscripts, op.kernel, hs, fun _ hl => hl, ?_, kernel, labels⟩
    simp [linkedKernels, distinctBy]
  | steps _ contracts performs =>
    have hv := validated_steps hs contracts
    obtain ⟨s, hm, hlink⟩ := exists_of_mem_right (links_of_performs performs hv) hop
    obtain ⟨k, hfind, hfor⟩ := hlink.kernel
    exact ⟨s.subscripts, k, hv s hm, labels_of_step hs contracts s hm, hfind, hfor,
      hlink.labels⟩

section

variable {f : Label → Label} {c : Config} {p p' : Path} (h : p.Renames f p')
  (hs : p.subscripts.Validated) (hf : Set.InjOn f {l | l ∈ p.subscripts.labels})
  (hl : ∀ l ∈ p.subscripts.labels, isLabel (f l) = true)

include h hs hf hl

theorem evaluate_renamed {α : Type} (arith : Arithmetic α) {ops : List Operation}
    (hops : Lowered c p ops) (serial : Nat) (ts : List (Tensor α)) :
    Renamed f ((Program.mk serial p ops).evaluate arith ts)
      ((Program.mk serial p' (ops.map (Operation.relabel f))).evaluate arith ts) := by
  have hnames : p'.operandNames = p.operandNames := by
    rw [Path.operandNames, h.subscripts, operandTensors_relabel, List.map_map]
    rfl
  have hkernels : (Program.mk serial p' (ops.map (Operation.relabel f))).kernels =
      (Program.mk serial p ops).kernels :=
    linkedKernels_relabel f ops
  have hrun : ∀ op ∈ ops, ∀ env,
      Renamed f ((Program.mk serial p ops).runOperation arith env op)
      ((Program.mk serial p' (ops.map (Operation.relabel f))).runOperation arith env
        (op.relabel f)) := by
    intro op hop
    obtain ⟨s, k, hv, hsub, hfind, hfor, hlabels⟩ := hops.linked hs op hop
    have hf' : Set.InjOn f {l | l ∈ s.labels} := hf.mono hsub
    exact runOperation_renamed arith hkernels hfind hfor hlabels hv
      (hv.relabel hf' fun l hm => hl l (hsub l hm)) hf'
  rw [Program.evaluate, Program.evaluate, h.checkArity]
  dsimp only
  rw [hnames]
  apply Renamed.bind (.refl _)
  intro _
  apply Renamed.bind (foldlM_renamed arith hrun _)
  exact fun env => .refl _

theorem call_relabel {ops : List Operation} (hops : Lowered c p ops) (serial : Nat)
    (operands : List Operand) :
    Renamed f ((Program.mk serial p ops).call operands)
      ((Program.mk serial p' (ops.map (Operation.relabel f))).call operands) := by
  rw [Program.call, Program.call, h.checkArity serial operands.length ops]
  apply Renamed.bind (.refl _)
  intro _
  apply Renamed.bind (.refl _)
  exact evaluate_renamed h hs hf hl Scalar.arithmetic hops serial

end

/-- Compilation commutes with renaming: the same orders are chosen, the steps are the same but for
their labels, the same kernels are called, and the same arrays come out. -/
theorem compile_relabel {s : Subscripts} (hs : s.Validated) (hne : s.inputs ≠ [])
    {f : Label → Label} (hf : Set.InjOn f {l | l ∈ s.labels})
    (hl : ∀ l ∈ s.labels, isLabel (f l) = true) (c : Config) {pool : Pool}
    (hp : pool.Reachable) :
    greedyPairs (s.relabel f) = greedyPairs s ∧ cheapestPairs (s.relabel f) = cheapestPairs s ∧
      ∃ p p' ops pool', Path.plan s c = .ok p ∧ Path.plan (s.relabel f) c = .ok p' ∧
        p.Renames f p' ∧ pool.lowerPath c p = .ok (ops, pool') ∧
        pool.lowerPath c p' = .ok (ops.map (Operation.relabel f), pool') ∧
        ∀ serial operands, Renamed f ((Program.mk serial p ops).call operands)
          ((Program.mk serial p' (ops.map (Operation.relabel f))).call operands) := by
  refine ⟨Subscripts.greedyPairs_relabel hf, Subscripts.cheapestPairs_relabel hf
    (List.length_pos_of_ne_nil hne), ?_⟩
  have hs' := hs.relabel hf hl
  have hne' : (s.relabel f).inputs ≠ [] := by simpa [Subscripts.relabel] using hne
  obtain ⟨p, hplan, hsub, hreach⟩ := Path.plan_reaches hs hne c
  obtain ⟨p', hplan', hren⟩ := Path.plan_relabel hf hne hplan
  obtain ⟨q, hq, -, hreach'⟩ := Path.plan_reaches hs' hne' c
  obtain rfl := Except.ok.inj (hplan'.symm.trans hq)
  subst hsub
  obtain ⟨ops, pool', hlower, hlow⟩ := lowerPath_lowered (c := c) hs hreach pool
  have hlower' :=
    lowerPath_relabel (c := c) hren hs (hren.subscripts ▸ hs') hf hreach hreach' pool
  rw [hlower] at hlower'
  exact ⟨p, p', ops, pool', hplan, hplan', hren, hlower, hlower', call_relabel hren hs hf hl
    (hlow hp.sound).1⟩

theorem compile_relabel_of_descending :
    let s : Subscripts := ⟨[['i', 'j'], ['j', 'k', 'k'], ['k', 'l']], ['l', 'i']⟩
    let f : Label → Label :=
      fun l => if l = 'i' then 'z' else if l = 'j' then 'k' else if l = 'k' then 'j' else 'a'
    s.Validated ∧ s.inputs ≠ [] ∧ Set.InjOn f {l | l ∈ s.labels} ∧
      (∀ l ∈ s.labels, isLabel (f l) = true) ∧
      ({ cache := some {} } : Pool).Reachable ∧ greedyPairs (s.relabel f) = greedyPairs s ∧
        ∃ p p', Path.plan s {} = .ok p ∧ Path.plan (s.relabel f) {} = .ok p' ∧
          p.Renames f p' := by
  intro s f
  have hs : s.Validated := by decide
  have hne : s.inputs ≠ [] := List.cons_ne_nil _ _
  have hf : Set.InjOn f {l | l ∈ s.labels} := fun l hl m hm h =>
    List.inj_on_of_nodup_map (show (s.labels.map f).Nodup by decide) hl hm h
  have hl : ∀ l ∈ s.labels, isLabel (f l) = true := List.all_eq_true.mp (by decide)
  have hp : ({ cache := some {} } : Pool).Reachable := .start 0
  obtain ⟨hg, -, p, p', _, _, hplan, hplan', hren, -⟩ := compile_relabel hs hne hf hl {} hp
  exact ⟨hs, hne, hf, hl, hp, hg, p, p', hplan, hplan', hren⟩

end Einsum
