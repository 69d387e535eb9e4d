import Einsum.Proofs.Program
import Einsum.Proofs.Search

namespace Einsum

theorem IsComplete.length {n : Nat} {order : List Pair} (h : IsComplete n order) :
    order.length + 1 = n := by
  induction order generalizing n with
  | nil => exact Eq.symm h
  | cons p order ih =>
    obtain ⟨hi, -, -, ht⟩ := h
    have := ih ht
    rw [List.length_cons]
    omega

def integerOrder (order : List Pair) : List (Int × Int) :=
  order.map fun p => ((p.1 : Int), (p.2 : Int))

namespace Path

variable {s : Subscripts}

theorem ofOrder_contracts (hs : s.Validated) (hk : 2 ≤ s.inputs.length) {order : List Pair}
    (ho : IsComplete s.inputs.length order) :
    ∃ p, ofOrder s (integerOrder order) = .ok p ∧ p.subscripts = s ∧ p.steps ≠ [] ∧
      Contracts s.output 1 s.operandTensors p.steps ∧
      p.steps.map Step.cost = orderCosts s.output s.inputs order := by
  have hlen := ho.length
  have hne : order ≠ [] := by
    rintro rfl
    simp at hlen
    omega
  have htensors : s.operandTensors.length = s.inputs.length := by simp [Subscripts.operandTensors]
  obtain ⟨steps, perm, hsteps, hc, hcosts⟩ := stepsFrom_contracts (n := 1) hne (htensors ▸ ho)
    (covers_operandTensors hs) hs.output_nodup
  rw [labels_operandTensors] at hcosts
  refine ⟨⟨s, steps, perm⟩, ?_, rfl, ?_, hc, hcosts⟩
  · have hentries : (integerOrder order).map Except.ok =
        order.map fun p => (Except.ok ((p.1 : Int), (p.2 : Int)) : Except Error (Int × Int)) := by
      rw [integerOrder, List.map_map]
      rfl
    have hcount : ¬ ((integerOrder order).map
        (Except.ok : _ → Except Error (Int × Int))).length + 1 ≠ s.inputs.length := by
      simpa [integerOrder] using hlen
    rw [ofOrder, ofEntries, if_neg hcount, hentries, hsteps]
  · rintro rfl
    have := hc.length_steps
    rw [htensors, List.length_nil] at this
    omega

theorem chooseOrder_complete (h : 1 ≤ s.inputs.length) (c : Config) :
    ∃ order, chooseOrder s c = .ok order ∧ IsComplete s.inputs.length order := by
  rw [chooseOrder]
  split
  · obtain ⟨order, ho, hc, -⟩ := cheapestPairs_least h
    exact ⟨order, ho, hc⟩
  · exact ⟨_, rfl, isComplete_greedyFrom h (Nat.le_succ _)⟩

/-- Planning succeeds with every configuration. -/
theorem plan_contracts (hs : s.Validated) (hk : 2 ≤ s.inputs.length) (c : Config) :
    ∃ p, plan s c = .ok p ∧ p.subscripts = s ∧ p.steps ≠ [] ∧
      Contracts s.output 1 s.operandTensors p.steps := by
  obtain ⟨order, ho, hc⟩ := chooseOrder_complete (one_le_two.trans hk) c
  obtain ⟨p, hp, hsub, hne, hcon, -⟩ := ofOrder_contracts hs hk hc
  refine ⟨p, ?_, hsub, hne, hcon⟩
  have hone : ¬ s.inputs.length = 1 := by omega
  rw [plan, if_neg hone, ho]
  exact hp

theorem plan_reaches (hs : s.Validated) (hne : s.inputs ≠ []) (c : Config) :
    ∃ p, plan s c = .ok p ∧ p.subscripts = s ∧ p.Reaches := by
  have hpos := List.length_pos_of_ne_nil hne
  by_cases hone : s.inputs.length = 1
  · exact ⟨⟨s, [], none⟩, by rw [plan, if_pos hone], rfl, .inl ⟨rfl, hone⟩⟩
  · obtain ⟨p, hp, rfl, hn, hc⟩ := plan_contracts hs (by omega) c
    exact ⟨p, hp, rfl, .inr ⟨hn, hc⟩⟩

def liveAfter (p : Path) (steps : List Step) : List NamedTensor :=
  (p.subscripts.operandTensors ++ steps.map Step.result).filter (· ∉ steps.flatMap Step.reads)

def inputNames (s : Subscripts) : List String :=
  (List.range s.inputs.length).map operandName ++
    (List.range' 1 (s.inputs.length - 2)).map intermediateName

/-- Steps that fit together: each tensor is read once and after it was made, and each label that the
result lacks is summed once, when nothing else needs it. -/
structure WellFormed (p : Path) : Prop where
  length : p.steps.length + 1 = p.subscripts.inputs.length
  reads : ∀ name, ((p.steps.flatMap Step.reads).map NamedTensor.name).count name =
    if name ∈ inputNames p.subscripts then 1 else 0
  results : p.steps.map (·.result.name) =
    (List.range' 1 (p.subscripts.inputs.length - 2)).map intermediateName ++ [finalName]
  last : p.steps.getLast?.map Step.result = some ⟨finalName, p.subscripts.output, none⟩
  causal : ∀ before s after, p.steps = before ++ s :: after →
    ∀ t ∈ s.reads, t ∈ p.subscripts.operandTensors ++ before.map Step.result
  summed : ∀ l, (p.steps.flatMap Step.summed).count l =
    if l ∈ p.subscripts.axes ∧ l ∉ p.subscripts.output then 1 else 0
  alone : ∀ before s after, p.steps = before ++ s :: after →
    ∀ l ∈ s.summed, ∀ t ∈ p.liveAfter before, t ∉ s.reads → l ∉ t.labels
  recorded : ∀ s ∈ p.steps, s.summed = s.subscripts.summed

theorem nodup_inputNames (s : Subscripts) : (inputNames s).Nodup := by
  refine List.nodup_append.mpr ⟨List.nodup_range.map operandName_injective,
    List.Nodup.map intermediateName_injective List.nodup_range', ?_⟩
  rintro _ ha _ hb rfl
  obtain ⟨i, -, rfl⟩ := List.mem_map.mp ha
  obtain ⟨n, -, hn⟩ := List.mem_map.mp hb
  exact operandName_ne_intermediateName i n hn.symm

section

variable {p : Path} (hs : p.subscripts.Validated) (hne : p.steps ≠ [])
  (hc : Contracts p.subscripts.output 1 p.subscripts.operandTensors p.steps)

include hc

theorem length_of_contracts : p.steps.length + 1 = p.subscripts.inputs.length := by
  rw [hc.length_steps, ← List.length_map NamedTensor.labels, labels_operandTensors]

theorem length_intermediates : p.steps.length - 1 = p.subscripts.inputs.length - 2 := by
  have := length_of_contracts hc
  omega

include hne

theorem reads_of_contracts :
    ((p.steps.flatMap Step.reads).map NamedTensor.name).Perm (inputNames p.subscripts) := by
  obtain ⟨rs, hr, hn⟩ := hc.results hne
  have hp := hc.reads_perm
  rw [hr, ← List.append_assoc] at hp
  have hp' := ((List.perm_append_right_iff _).mp hp).map NamedTensor.name
  rw [List.map_append, hn, name_operandTensors, length_intermediates hc] at hp'
  exact hp'

include hs

theorem wellFormed_of_contracts : p.WellFormed where
  length := length_of_contracts hc
  reads name := by
    rw [(reads_of_contracts hne hc).count_eq, (nodup_inputNames _).count]
  results := by
    obtain ⟨rs, hr, hn⟩ := hc.results hne
    rw [← length_intermediates hc, ← hn]
    have := congrArg (List.map NamedTensor.name) hr
    rwa [List.map_map, List.map_append] at this
  last := by
    obtain ⟨rs, hr, -⟩ := hc.results hne
    rw [← List.getLast?_map, hr]
    simp [finalTensor]
  causal before s after h := by
    rw [h] at hc
    exact hc.reads_subset
  summed l := by
    obtain ⟨hn, hm⟩ := hc.summed (covers_operandTensors hs)
    rw [axesOf_operandTensors] at hm
    rw [hn.count]
    exact if_congr (hm l) rfl rfl
  alone before s after h l hl t ht hr := by
    obtain ⟨ht, hb⟩ := List.mem_filter.mp ht
    rw [h] at hc
    exact hc.notMem_of_summed hl ht (of_decide_eq_true hb) hr
  recorded s hm := (hc.subscripts_summed (covers_operandTensors hs) s hm).symm

end

/-- Planned paths are well-formed, pass the check and can be lowered with kernels from any pool. -/
theorem plan_wellFormed (hs : s.Validated) (hk : 2 ≤ s.inputs.length) (c : Config) :
    ∃ p, plan s c = .ok p ∧ p.subscripts = s ∧ p.WellFormed ∧ p.check = .ok () ∧
      ∀ pool : Pool, ∃ r, pool.lowerPath c p = .ok r := by
  obtain ⟨p, hp, rfl, hne, hc⟩ := plan_contracts hs hk c
  refine ⟨p, hp, rfl, wellFormed_of_contracts hs hne hc, check_of_contracts hs hc,
    fun pool => ?_⟩
  obtain ⟨ops, pool', h, -⟩ := lowerPath_lowered (c := c) hs (.inr ⟨hne, hc⟩) pool
  exact ⟨_, h⟩

theorem plan_wellFormed_of_four :
    let s := Subscripts.mk [['a', 'a', 'b'], ['b', 'c'], [], ['c', 'd', 'e']] ['d', 'b']
    s.Validated ∧ 2 ≤ s.inputs.length ∧
      ∃ p, plan s {} = .ok p ∧ p.subscripts = s ∧ p.WellFormed ∧ p.check = .ok () ∧
        ∀ pool : Pool, ∃ r, pool.lowerPath {} p = .ok r := by
  intro s
  have hs : s.Validated := by decide
  exact ⟨hs, by decide, plan_wellFormed hs (by decide) {}⟩

/-- Every complete order gives a path that can be lowered with kernels from any pool. With the right
kernels it evaluates to one and the same result, if the arrays on the way there can be allocated. -/
theorem ofOrder_sound (hs : s.Validated) (hk : 2 ≤ s.inputs.length) {order : List Pair}
    (ho : IsComplete s.inputs.length order) (c : Config) (pool : Pool) :
    ∃ p ops pool', ofOrder s (integerOrder order) = .ok p ∧ pool.lowerPath c p =
      .ok (ops, pool') ∧
      (∀ d σ, Fits d (s.labels.map σ) → p.AllFit d σ ∧ p.Counts d σ) ∧
      (pool.Sound → ∀ d σ ts serial, d.IsExact → s.Fit d σ ts → p.Counts d σ →
        Yields (p.AllFit d σ) (· = s.einsum d σ ts)
          ((Program.mk serial p ops).evaluate Scalar.arithmetic ts)) := by
  obtain ⟨p, hp, rfl, hne, hc, -⟩ := ofOrder_contracts hs hk ho
  have hreach : p.Reaches := .inr ⟨hne, hc⟩
  obtain ⟨ops, pool', hl, hy⟩ := lowerPath_yields hs hreach c pool
  exact ⟨p, ops, pool', hp, hl, fun d σ hf => hreach.fits hs hf, hy⟩

theorem ofOrder_sound_of_descending :
    let s := Subscripts.mk [['a', 'a', 'b'], ['b', 'c'], [], ['c', 'd', 'e']] ['d', 'b']
    let d := ElemType.int ⟨true, .w8⟩
    let σ : Assignment := fun _ => 2
    let ts := s.inputs.map fun g => Tensor.fill d (g.map σ) (d.element 100)
    s.Validated ∧ IsComplete s.inputs.length [(3, 0), (2, 1), (1, 0)] ∧ s.Fit d σ ts ∧
      ∃ p ops pool', ofOrder s (integerOrder [(3, 0), (2, 1), (1, 0)]) = .ok p ∧
        ({ cache := some {} } : Pool).lowerPath {} p = .ok (ops, pool') ∧
          (Program.mk 0 p ops).evaluate Scalar.arithmetic ts = .ok (s.einsum d σ ts) := by
  intro s d σ ts
  have hs : s.Validated := by decide
  have ho : IsComplete s.inputs.length [(3, 0), (2, 1), (1, 0)] := by decide
  have hfit : s.Fit d σ ts := s.fit_fill (d := d) trivial σ 100
  obtain ⟨p, ops, pool', hp, hl, hf, hy⟩ :=
    ofOrder_sound hs (by decide) ho {} { cache := some {} }
  obtain ⟨hall, hcount⟩ := hf d σ (by decide)
  obtain ⟨_, hr, rfl⟩ :=
    (hy (Cache.sound_empty.pool 0) d σ ts 0 trivial hfit hcount).success hall
  exact ⟨hs, ho, hfit, p, ops, pool', hp, hl, hr⟩

/-- Operands that can be allocated do not ensure that what is contracted from them can be, even if
all are empty. -/
theorem exists_order_refused :
    let s := Subscripts.mk [['a', 'b', 'z'], ['b', 'c', 'z'], ['d', 'a', 'z'], ['d', 'c']] []
    let d := ElemType.int ⟨true, .w64⟩
    let σ : Assignment := fun l => if l ∈ ['a', 'c'] then 2 ^ 40 else 0
    let ts := s.inputs.map fun g => Tensor.fill d (g.map σ) (d.element 0)
    s.Validated ∧ IsComplete s.inputs.length [(0, 1), (0, 1), (0, 1)] ∧ s.Fit d σ ts ∧
      (∀ t ∈ ts, Fits t.type t.shape) ∧
        ∃ p ops pool', ofOrder s (integerOrder [(0, 1), (0, 1), (0, 1)]) = .ok p ∧
          ({} : Pool).lowerPath {} p = .ok (ops, pool') ∧
            ∀ r, (Program.mk 0 p ops).evaluate Scalar.arithmetic ts ≠ .ok r := by
  intro s d σ ts
  have hs : s.Validated := by decide
  have ho : IsComplete s.inputs.length [(0, 1), (0, 1), (0, 1)] := by decide
  have hfit : s.Fit d σ ts := s.fit_fill (d := d) trivial σ 0
  obtain ⟨p, hp, hsub, hne, hc, -⟩ := ofOrder_contracts hs (by decide) ho
  obtain ⟨ops, pool', hl, hy⟩ :=
    lowerPath_yields (hsub ▸ hs) (.inr ⟨hne, hsub ▸ hc⟩) {} {}
  refine ⟨hs, ho, hfit, by decide, p, ops, pool', hp, hl, fun r hr => ?_⟩
  have hall := (hy nofun d σ ts 0 trivial (hsub ▸ hfit) nofun).fits hr
  have hout : (ofOrder s (integerOrder [(0, 1), (0, 1), (0, 1)])).toOption.map
      (fun p => p.kernelSubscripts.map Subscripts.output) =
        some [['a', 'z', 'c'], ['c', 'd'], []] := by
    decide
  rw [hp] at hout
  have hg : p.kernelSubscripts.map Subscripts.output = _ := Option.some.inj hout
  exact absurd (hall.output ['a', 'z', 'c'] (hg ▸ List.mem_cons_self)) (by decide)

end Path

end Einsum
