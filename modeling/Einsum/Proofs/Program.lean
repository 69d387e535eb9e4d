import Einsum.Proofs.Definition
import Einsum.Proofs.Evaluation

namespace Einsum

def Path.Reaches (p : Path) : Prop :=
  p.steps = [] ∧ p.subscripts.inputs.length = 1 ∨
    p.steps ≠ [] ∧ Contracts p.subscripts.output 1 p.subscripts.operandTensors p.steps

inductive Lowered (c : Config) (p : Path) : List Operation → Prop
  | single {op : Operation} (steps : p.steps = []) (one : p.subscripts.inputs.length = 1)
      (kernel : op.kernel.IsFor c p.subscripts) (inputs : op.inputs = p.subscripts.operandTensors)
      (result : op.result = finalTensor p.subscripts.output)
      (labels : op.labels = p.subscripts.labels) : Lowered c p [op]
  | steps {ops : List Operation} (ne : p.steps ≠ [])
      (contracts : Contracts p.subscripts.output 1 p.subscripts.operandTensors p.steps)
      (performs : List.Forall₂ (Operation.Performs c) p.steps ops) : Lowered c p ops

section

variable {c : Config} {p : Path}

theorem validated_steps (hs : p.subscripts.Validated)
    (h : Contracts p.subscripts.output 1 p.subscripts.operandTensors p.steps) :
    ∀ s ∈ p.steps, s.subscripts.Validated :=
  h.validated (covers_operandTensors hs) hs.output_nodup fun l hl =>
    hs.letters l (axesOf_operandTensors p.subscripts ▸ hl)

theorem lowerPath_lowered (hs : p.subscripts.Validated) (h : p.Reaches) (pool : Pool) :
    ∃ ops pool', pool.lowerPath c p = .ok (ops, pool') ∧
      (pool.Sound → Lowered c p ops ∧ pool'.Sound) := by
  rcases h with ⟨hn, hl⟩ | ⟨hn, hc⟩
  · obtain ⟨g, hg⟩ := List.length_eq_one_iff.mp hl
    have ht : p.subscripts.operandTensors = [operandTensor 0 g] := by
      simp [Subscripts.operandTensors, hg]
    obtain ⟨op, pool', hop, hi, hr, hlab, hk⟩ := pool_lower (c := c) pool hs (by simp [hg])
      [operandTensor 0 g] (finalTensor p.subscripts.output)
    refine ⟨[op], pool', ?_, fun hp => ⟨.single hn hl (hk hp).1 (hi.trans ht.symm) hr hlab,
      (hk hp).2⟩⟩
    have hop' : pool.lower c p.subscripts [operandTensor 0 g]
        ⟨finalName, p.subscripts.output, none⟩ = .ok (op, pool') := hop
    simp only [Pool.lowerPath, hn, List.isEmpty_nil, if_true, Pool.lowerSingle, ht,
      hop', Except.map]
  · obtain ⟨ops, pool', hops, hk⟩ := lowerSteps_performs (c := c) (validated_steps hs hc) pool
    refine ⟨ops, pool', ?_, fun hp => ⟨.steps hn hc (hk hp).1, (hk hp).2⟩⟩
    have hcheck : p.check = .ok () := check_of_contracts hs hc
    have he : p.steps.isEmpty = false := by simpa using hn
    simp only [Pool.lowerPath, he, hcheck, hops]
    rfl

end

def operandEnv {α : Type} (s : Subscripts) (ts : List (Tensor α)) : Program.Environment α :=
  (s.operandTensors.map NamedTensor.name).zip ts

theorem lookup_operandEnv {α : Type} {s : Subscripts} {ts : List (Tensor α)}
    (hl : s.inputs.length = ts.length) {k : Nat} (hk : k < ts.length) :
    (operandEnv s ts).lookup (operandName k) = some ts[k] := by
  have hn : s.operandTensors.map NamedTensor.name = (List.range ts.length).map operandName := by
    rw [name_operandTensors, hl]
  rw [operandEnv, hn]
  apply lookup_of_mem
  · rw [List.map_fst_zip (by simp)]
    exact List.nodup_range.map operandName_injective
  · refine List.mem_iff_getElem.mpr ⟨k, by simpa using hk, ?_⟩
    simp

section

variable {α : Type} (arith : Arithmetic α) {s : Subscripts} {ts : List (Tensor α)}

def operandAt (s : Subscripts) (ts : List (Tensor α)) (t : NamedTensor) : Tensor α :=
  ((operandEnv s ts).lookup t.name).getD (.fill .bool [] arith.literalZero)

theorem map_operandAt (hl : s.inputs.length = ts.length) :
    s.operandTensors.map (operandAt arith s ts) = ts := by
  apply List.ext_getElem (by simp [Subscripts.operandTensors, hl])
  intro k h₁ h₂
  simp [Subscripts.operandTensors, operandTensor, operandAt, lookup_operandEnv hl h₂]

theorem forall_operandAt {P : Tensor α → Prop} (hl : s.inputs.length = ts.length)
    (h : ∀ t ∈ ts, P t) : ∀ t ∈ s.operandTensors, P (operandAt arith s ts t) := by
  intro t ht
  apply h
  have hmem := List.mem_map_of_mem (f := operandAt arith s ts) ht
  rwa [map_operandAt arith hl] at hmem

theorem forall_operandTensors {R : Group → Tensor α → Prop}
    (h : List.Forall₂ R s.inputs ts) :
    ∀ t ∈ s.operandTensors, R t.labels (operandAt arith s ts t) := by
  have hmap := h
  rw [← labels_operandTensors s, ← map_operandAt arith h.length_eq, List.forall₂_map_left_iff,
    List.forall₂_map_right_iff] at hmap
  exact fun t ht => List.forall₂_same.mp hmap t ht

theorem lookup_operands (hl : s.inputs.length = ts.length) :
    ∀ t ∈ s.operandTensors, (operandEnv s ts).lookup t.name =
      some (operandAt arith s ts t) := by
  intro t ht
  have hn : t.name ∈ s.operandTensors.map NamedTensor.name := List.mem_map_of_mem ht
  rw [name_operandTensors, hl] at hn
  obtain ⟨k, hk, hname⟩ := List.mem_map.mp hn
  rw [operandAt, ← hname, lookup_operandEnv hl (List.mem_range.mp hk)]
  rfl

end

section

variable {d : ElemType} {σ : Assignment} {s : Subscripts} {ts : List (Tensor Scalar)}

def namedFactor (s : Subscripts) (ts : List (Tensor Scalar)) (t : NamedTensor) : Factor :=
  operandFactor t.labels (operandAt Scalar.arithmetic s ts t)

theorem map_namedFactor (hl : s.inputs.length = ts.length) :
    s.operandTensors.map (namedFactor s ts) = List.zipWith operandFactor s.inputs ts := by
  conv_rhs => rw [← labels_operandTensors s, ← map_operandAt Scalar.arithmetic hl]
  rw [List.zipWith_map, List.zipWith_self]
  rfl

theorem holds_operands (h : s.Fit d σ ts) :
    Holds d σ (operandEnv s ts) (namedFactor s ts) s.operandTensors where
  labels _ _ := rfl
  find := lookup_operands Scalar.arithmetic h.length_eq
  exact t ht := by
    apply h.exact_factors
    rw [← map_namedFactor h.length_eq]
    exact List.mem_map_of_mem ht

theorem liveValue_operands (hlen : s.inputs.length = ts.length) :
    liveValue σ s.output (namedFactor s ts) s.operandTensors =
      sumOver σ s.summed (productAt (List.zipWith operandFactor s.inputs ts)) := by
  have hl : s.operandTensors.map NamedTensor.labels = s.inputs := labels_operandTensors s
  rw [liveValue, hl, map_namedFactor hlen]

end

section

variable {c : Config} {p : Path} {d : ElemType} {σ : Assignment} {ts : List (Tensor Scalar)}
  {ops : List Operation}

def Path.AllFit (p : Path) (d : ElemType) (σ : Assignment) : Prop :=
  ∀ s ∈ p.kernelSubscripts, Fits d (s.output.map σ)

def Path.Counts (p : Path) (d : ElemType) (σ : Assignment) : Prop :=
  d = .bool → ∀ s ∈ p.kernelSubscripts, (s.summed.map σ).prod < 2 ^ 64

theorem Path.AllFit.output (h : p.AllFit d σ) (g : Group)
    (hg : g ∈ p.kernelSubscripts.map Subscripts.output) :
    Fits d (g.map σ) := by
  obtain ⟨u, hu, rfl⟩ := List.mem_map.mp hg
  exact h u hu

theorem kernelSubscripts_of_ne (h : p.steps ≠ []) :
    p.kernelSubscripts = p.steps.map Step.subscripts := by
  simp [Path.kernelSubscripts, h]

theorem kernelSubscripts_of_eq (h : p.steps = []) : p.kernelSubscripts = [p.subscripts] := by
  simp [Path.kernelSubscripts, h]

theorem Path.Reaches.validated_kernelSubscripts (h : p.Reaches) (hs : p.subscripts.Validated) :
    ∀ s ∈ p.kernelSubscripts, s.Validated ∧ ∀ l ∈ s.axes, l ∈ p.subscripts.axes := by
  rcases h with ⟨hn, -⟩ | ⟨hn, hc⟩
  · rw [kernelSubscripts_of_eq hn, List.forall_mem_singleton]
    exact ⟨hs, fun _ hl => hl⟩
  · rw [kernelSubscripts_of_ne hn, List.forall_mem_map]
    intro s hm
    refine ⟨validated_steps hs hc s hm, fun l hl => ?_⟩
    rw [← axesOf_operandTensors]
    exact hc.axes_subset (covers_operandTensors hs) s hm l hl

/-- It is enough that an array over all labels could be allocated. -/
theorem Path.Reaches.fits (hs : p.subscripts.Validated) (h : p.Reaches)
    (hf : Fits d (p.subscripts.labels.map σ)) : p.AllFit d σ ∧ p.Counts d σ := by
  have hk := h.validated_kernelSubscripts hs
  constructor
  · intro u hu
    obtain ⟨hv, hl⟩ := hk u hu
    exact hf.of_subset hv.output_nodup fun l hm => p.subscripts.mem_labels.mpr
      (.inl (hl l (hv.output_subset l hm)))
  · rintro rfl u hu
    have hsum := hf.of_subset u.nodup_summed fun l hm =>
      p.subscripts.mem_labels.mpr (.inl ((hk u hu).2 l (u.mem_summed.mp hm).1))
    have hle := prod_le_prod_filter (u.summed.map σ)
    rw [Fits, ElemType.byteCount, Nat.one_mul] at hsum
    omega

theorem evaluate_eq {α : Type} (arith : Arithmetic α) {us : List (Tensor α)}
    (h : p.subscripts.inputs.length = us.length) (serial : Nat) :
    (Program.mk serial p ops).evaluate arith us =
      ops.foldlM ((Program.mk serial p ops).runOperation arith) (operandEnv p.subscripts us) >>=
        fun env => Program.Environment.find env finalName := by
  have ha : (Program.mk serial p ops).checkArity us.length = .ok () := if_pos h.symm
  rw [Program.evaluate, ha]
  rfl

section

variable (hd : d.IsExact) (hs : p.subscripts.Validated) (hfit : p.subscripts.Fit d σ ts)
  (hc : p.Counts d σ) (serial : Nat)

include hd hs hfit hc

theorem run_single {op : Operation} (hn : p.steps = []) (hk : op.kernel.IsFor c p.subscripts)
    (hi : op.inputs = p.subscripts.operandTensors)
    (hr : op.result = finalTensor p.subscripts.output) (hone : p.subscripts.inputs.length = 1) :
    Yields (p.AllFit d σ)
      (Delivers d σ p.subscripts.output
        (liveValue σ p.subscripts.output (namedFactor p.subscripts ts)
          p.subscripts.operandTensors))
      ([op].foldlM ((Program.mk serial p [op]).runOperation Scalar.arithmetic)
        (operandEnv p.subscripts ts)) := by
  have hfind : (Program.mk serial p [op]).kernels.find? (·.name = op.kernel.name) =
      some op.kernel := by
    simp [Program.kernels, linkedKernels, distinctBy]
  have hall : p.AllFit d σ ↔ Fits d (p.subscripts.output.map σ) := by
    simp [Path.AllFit, kernelSubscripts_of_eq hn]
  have hne : op.inputs ≠ [] := by
    rw [hi, ← List.length_pos_iff, ← List.length_map NamedTensor.labels,
      labels_operandTensors, hone]
    exact Nat.one_pos
  have hcount : d = .bool → (p.subscripts.summed.map σ).prod < 2 ^ 64 := fun hb =>
    hc hb _ (by simp [kernelSubscripts_of_eq hn])
  have hy := runOperation_yields (φ := namedFactor p.subscripts ts) hd hfind hk hs
    (by rw [hi, labels_operandTensors]) hne (hi ▸ holds_operands hfit) hcount
  rw [List.foldlM_cons]
  simp only [List.foldlM_nil, bind_pure]
  refine hy.imp hall.symm ?_
  rintro _ ⟨t, rfl, hx⟩
  refine ⟨t, by rw [hr]; exact List.lookup_cons_self, ?_⟩
  rwa [liveValue, labels_operandTensors, ← hi]

theorem run_steps (hn : p.steps ≠ [])
    (hcon : Contracts p.subscripts.output 1 p.subscripts.operandTensors p.steps)
    (hops : List.Forall₂ (Operation.Performs c) p.steps ops) :
    Yields (p.AllFit d σ)
      (Delivers d σ p.subscripts.output
        (liveValue σ p.subscripts.output (namedFactor p.subscripts ts)
          p.subscripts.operandTensors))
      (ops.foldlM ((Program.mk serial p ops).runOperation Scalar.arithmetic)
        (operandEnv p.subscripts ts)) := by
  have hv := validated_steps hs hcon
  have hall : (∀ s ∈ p.steps, Fits d (s.subscripts.output.map σ)) ↔ p.AllFit d σ := by
    simp [Path.AllFit, kernelSubscripts_of_ne hn]
  have hcount : d = .bool → ∀ s ∈ p.steps, (s.subscripts.summed.map σ).prod < 2 ^ 64 :=
    fun hb s hm =>
    hc hb _ (by rw [kernelSubscripts_of_ne hn]; exact List.mem_map_of_mem hm)
  exact (run_contracts hd hcon (links_of_performs hops hv) hv (fresh_operandTensors p.subscripts 1)
    (covers_operandTensors hs) (holds_operands hfit) hcount).imp hall fun _ h => h

/-- A lowered path evaluates to the defined result, if the arrays it needs can be allocated. -/
theorem evaluate_yields (hl : Lowered c p ops) :
    Yields (p.AllFit d σ) (IsEinsum d σ p.subscripts ts)
      ((Program.mk serial p ops).evaluate Scalar.arithmetic ts) := by
  have hy : Yields (p.AllFit d σ)
      (Delivers d σ p.subscripts.output
        (liveValue σ p.subscripts.output (namedFactor p.subscripts ts)
          p.subscripts.operandTensors))
      (ops.foldlM ((Program.mk serial p ops).runOperation Scalar.arithmetic)
        (operandEnv p.subscripts ts)) := by
    cases hl with
    | single steps one kernel inputs result _ =>
      exact run_single hd hs hfit hc serial steps kernel inputs result one
    | steps ne contracts performs => exact run_steps hd hs hfit hc serial ne contracts performs
  rw [evaluate_eq Scalar.arithmetic hfit.length_eq]
  refine (hy.bind (q := True) fun env he => ?_).imp (and_iff_left trivial) fun _ h => h
  obtain ⟨t, ht, hx⟩ := he
  rw [Program.Environment.find, ht]
  rw [liveValue_operands hfit.length_eq] at hx
  exact Yields.ok (isEinsum_of_exact hd hfit hx)

end

theorem lowerPath_yields (hs : p.subscripts.Validated) (h : p.Reaches) (c : Config) (pool : Pool) :
    ∃ ops pool', pool.lowerPath c p = .ok (ops, pool') ∧
      (pool.Sound → ∀ d σ ts serial, d.IsExact → p.subscripts.Fit d σ ts →
        p.Counts d σ → Yields (p.AllFit d σ) (· = p.subscripts.einsum d σ ts)
          ((Program.mk serial p ops).evaluate Scalar.arithmetic ts)) := by
  obtain ⟨ops, pool', hl, hlow⟩ := lowerPath_lowered (c := c) hs h pool
  refine ⟨ops, pool', hl, fun hp d σ ts serial hd hfit hcount => ?_⟩
  have hy := evaluate_yields hd hs hfit hcount serial (hlow hp).1
  exact hy.imp Iff.rfl fun r hr => hr.eq_einsum hd hfit hs.output_nodup

end

end Einsum
