import Einsum.Proofs.Attribution
import Einsum.Proofs.History
import Einsum.Proofs.Listing

namespace Einsum

structure Operation.Made (c : Config) (s : Subscripts) (op : Operation) : Prop where
  kind : op.kind = s.kind c.specialCases
  kernel : Kernel.emit 0 s.canonical (s.kind c.specialCases) c.kernelPrefix = .ok op.kernel.plain

theorem map_eq_ok {α β : Type} {x : Except Error α} {f : α → β} {b : β}
    (h : x.map f = .ok b) :
    ∃ a, x = .ok a ∧ f a = b := by
  cases x with
  | error e => cases h
  | ok a => exact ⟨a, rfl, Except.ok.inj h⟩

section

variable {c : Config} {s u : Subscripts} {op op' : Operation}

theorem made_of_fresh {inputs : List NamedTensor} {result : NamedTensor}
    (h : freshOperation c s inputs result = .ok op.plain) : op.Made c s := by
  obtain ⟨k, hk, he⟩ := map_eq_ok h
  have hplain : k = op.kernel.plain := congrArg Operation.kernel he
  exact ⟨(congrArg Operation.kind he).symm, hplain ▸ hk⟩

theorem Operation.Made.isFor (h : op.Made c s) : op.kernel.IsFor c s := by
  obtain ⟨b, hb, he⟩ := map_eq_ok h.kernel
  have hbody : b = op.kernel.body := congrArg Kernel.body he
  exact ⟨(congrArg Kernel.pattern he).symm, (congrArg Kernel.name he).symm, hbody ▸ hb⟩

/-- A kernel name stands for one kernel. -/
theorem Operation.Made.eq_of_name (h : op.Made c s) (hs : s.Validated) (h' : op'.Made c u)
    (hu : u.Validated) (hname : op.kernel.name = op'.kernel.name) :
    op.kind = op'.kind ∧ op.kernel.plain = op'.kernel.plain := by
  have hcanonical : s.canonical = u.canonical := by
    apply Kernel.nameOf_inj s.canonical_delimited u.canonical_delimited
    rw [← h.isFor.name, hname, h'.isFor.name]
  have hkind : s.kind c.specialCases = u.kind c.specialCases := by
    rw [← kind_canonical hs, hcanonical, kind_canonical hu]
  refine ⟨by rw [h.kind, h'.kind, hkind], ?_⟩
  have hk := h.kernel
  rw [hcanonical, hkind, h'.kernel] at hk
  exact (Except.ok.inj hk).symm

end

section

variable {c : Config} {p : Path} {ops : List Operation}

theorem performs_flow {steps : List Step} (h : List.Forall₂ (Operation.Performs c) steps ops) :
    ops.map (fun op => (op.inputs, op.result)) = steps.map fun s => (s.reads, s.result) := by
  induction h with
  | nil => rfl
  | cons hp _ ih => rw [List.map_cons, List.map_cons, ih, hp.inputs, hp.result]

theorem Lowered.results (h : Lowered c p ops) :
    ops.map (fun op => op.result.name) = (List.range' 1 (ops.length - 1)).map intermediateName ++
      [finalName] := by
  cases h with
  | single steps one kernel inputs result labels => simp [result, finalTensor]
  | steps ne contracts performs =>
    obtain ⟨rs, hresults, hnames⟩ := contracts.results ne
    have hflow := congrArg (List.map fun r => r.2.name) (performs_flow performs)
    simp only [List.map_map, Function.comp_def] at hflow
    have hsteps := congrArg (List.map NamedTensor.name) hresults
    rw [List.map_map, List.map_append, hnames, performs.length_eq] at hsteps
    exact hflow.trans hsteps

theorem Lowered.causal (h : Lowered c p ops) {before after : List Operation} {op : Operation}
    (he : ops = before ++ op :: after) :
    ∀ t ∈ op.inputs, t ∈ p.subscripts.operandTensors ++ before.map Operation.result := by
  cases h with
  | @single op' steps one kernel inputs result labels =>
    intro t ht
    obtain rfl : op = op' := by
      have hm : op ∈ [op'] := he ▸ List.mem_append_right before List.mem_cons_self
      exact List.mem_singleton.mp hm
    rw [inputs] at ht
    exact List.mem_append_left _ ht
  | steps ne contracts performs =>
    have hflow := performs_flow performs
    rw [he, List.map_append, List.map_cons] at hflow
    obtain ⟨steps₁, steps₂, hsteps, hbefore, hrest⟩ := List.map_eq_append_iff.mp hflow.symm
    obtain ⟨s, steps₃, rfl, hs, -⟩ := List.map_eq_cons_iff.mp hrest
    obtain ⟨hreads, -⟩ := Prod.mk.inj hs
    have hresults : before.map Operation.result = steps₁.map Step.result := by
      have hmap := congrArg (List.map Prod.snd) hbefore
      simpa [List.map_map, Function.comp_def] using hmap.symm
    rw [hsteps] at contracts
    rw [← hreads, hresults]
    exact contracts.reads_subset

theorem Lowered.nodup_names (h : Lowered c p ops) :
    (p.operandNames ++ ops.map fun op => op.result.name).Nodup := by
  have hresults : ops.map (fun op => op.result.name) =
      (List.range' 1 (ops.length - 1) ++ [0]).map intermediateName := by
    rw [h.results, List.map_append]
    rfl
  rw [hresults, Path.operandNames, name_operandTensors]
  refine List.nodup_append.mpr
    ⟨List.nodup_range.map operandName_injective, List.Nodup.map intermediateName_injective ?_,
      ?_⟩
  · refine List.nodup_append.mpr ⟨List.nodup_range', List.nodup_singleton 0, ?_⟩
    intro m hm n hn
    rw [List.mem_range'_1] at hm
    rw [List.mem_singleton] at hn
    omega
  · rintro _ ha _ hb rfl
    obtain ⟨i, -, rfl⟩ := List.mem_map.mp ha
    obtain ⟨n, -, hn⟩ := List.mem_map.mp hb
    exact operandName_ne_intermediateName i n hn.symm

end

theorem Operation.isLine_source {op : Operation} (hr : IsLine op.result.name)
    (hk : IsLine op.kernel.name) (hi : ∀ name ∈ op.inputNames, IsLine name) :
    IsLine op.source := by
  have hs : op.source =
      op.result.name ++ " = " ++ op.kernel.name ++ "(" ++ commaList op.inputNames ++ ", " ++
      Text.quote op.labels.text ++ ")" := rfl
  simp only [hs, isLine_append, hr, hk, isLine_commaList hi, isLine_quote, true_and, and_true]
  decide

theorem nodup_distinctBy {α κ : Type} [DecidableEq κ] (key : α → κ) (as : List α) :
    ((distinctBy key as).map key).Nodup := by
  induction as with
  | nil => exact List.nodup_nil
  | cons a as ih =>
    rw [distinctBy, List.map_cons, List.nodup_cons]
    refine ⟨fun hm => ?_, ih.sublist (List.filter_sublist.map key)⟩
    obtain ⟨b, hb, he⟩ := List.mem_map.mp hm
    exact absurd he (of_decide_eq_true (List.mem_filter.mp hb).2)

def Program.Made (c : Config) (p : Program) : Prop :=
  ∀ op ∈ p.operations, ∃ s : Subscripts, s.Validated ∧ s.inputs ≠ [] ∧ op.Made c s

theorem Path.Reaches.made {c : Config} {p : Program} (hr : p.path.Reaches)
    (hs : p.path.subscripts.Validated) (h : p.path.freshOperations c = .ok p.plain.operations) :
    p.Made c := by
  intro op hop
  have hplain : op.plain ∈ p.plain.operations := List.mem_map_of_mem hop
  rcases hr with ⟨hnil, hone⟩ | ⟨hne, hcon⟩
  · rw [Path.freshOperations, hnil] at h
    obtain ⟨op', hfresh, he⟩ := map_eq_ok h
    rw [← he, List.mem_singleton] at hplain
    refine ⟨p.path.subscripts, hs, ?_, made_of_fresh (hplain ▸ hfresh)⟩
    exact List.ne_nil_of_length_pos (by omega)
  · have hempty : p.path.steps.isEmpty = false := by simpa using hne
    rw [Path.freshOperations, hempty] at h
    obtain ⟨step, hstep, hfresh⟩ := mem_of_mapM h _ hplain
    exact ⟨step.subscripts, validated_steps hs hcon step hstep, List.cons_ne_nil _ _,
      made_of_fresh hfresh⟩

def helperNames : List String := ["_rank", "_dim", "_zeros", "_product"]

theorem Kernel.marks_infix_nameOf {s : Subscripts} (h : s.inputs ≠ []) (word : String) :
    ['_', '_'] <:+: (nameOf s word).toList := by
  obtain ⟨gs, g, hg⟩ : ∃ gs g, s.inputs = gs ++ [g] :=
    ⟨_, _, (List.dropLast_append_getLast h).symm⟩
  refine ⟨word.toList ++ (gs.flatMap (· ++ ['_']) ++ g), s.output, ?_⟩
  rw [toList_nameOf, Subscripts.toList_identifier, hg]
  simp

theorem Kernel.IsFor.name_ne {c : Config} {s : Subscripts} {k : Kernel} (h : k.IsFor c s)
    (hn : s.inputs ≠ []) :
    k.name ≠ entryName ∧ (∀ i, k.name ≠ operandName i ∧ k.name ≠ intermediateName i) ∧
      k.name ∉ helperNames := by
  have hmarks : ['_', '_'] <:+: k.name.toList := by
    rw [h.name]
    exact marks_infix_nameOf (Subscripts.canonical_inputs_ne_nil hn) _
  have hne {name : String} (hname : ¬ ['_', '_'] <:+: name.toList) : k.name ≠ name := by
    rintro rfl
    exact hname hmarks
  have hnumbered (word : String) (hw : '_' ∉ word.toList) (i : Nat) :
      k.name ≠ word ++ i.repr := by
    apply hne
    intro hinfix
    have hmark : '_' ∈ (word ++ i.repr).toList := hinfix.subset List.mem_cons_self
    rw [String.toList_append, Nat.toList_repr] at hmark
    rcases List.mem_append.mp hmark with hmark | hmark
    · exact hw hmark
    · exact absurd (Nat.isDigit_of_mem_toDigits (by decide) (by decide) hmark) (by decide)
  have hhelpers : ∀ name ∈ helperNames, ¬ ['_', '_'] <:+: name.toList := by decide
  refine ⟨hne (by decide), fun i => ⟨?_, ?_⟩, fun hm => hhelpers _ hm hmarks⟩
  · exact hnumbered "arg" (by decide) i
  · exact hnumbered "out" (by decide) i

section

variable {c : Config} {p : Program} (hm : p.Made c)

include hm

theorem Program.Made.eq_of_name {op op' : Operation} (hop : op ∈ p.operations)
    (hop' : op' ∈ p.operations) (hname : op.kernel.name = op'.kernel.name) :
    op.kind = op'.kind ∧ op.kernel.plain = op'.kernel.plain := by
  obtain ⟨s, hs, -, hmade⟩ := hm op hop
  obtain ⟨u, hu, -, hmade'⟩ := hm op' hop'
  exact hmade.eq_of_name hs hmade' hu hname

theorem Program.Made.find?_kernels {op : Operation} (hop : op ∈ p.operations) :
    ∃ k, p.kernels.find? (·.name = op.kernel.name) = some k ∧ k.plain = op.kernel.plain := by
  rw [Program.kernels, linkedKernels, find?_distinctBy]
  cases hf : (p.operations.map Operation.kernel).find? (fun k => k.name = op.kernel.name) with
  | none =>
    have hn := List.find?_eq_none.mp hf op.kernel (List.mem_map_of_mem hop)
    simp at hn
  | some k =>
    have hname : k.name = op.kernel.name := by simpa using List.find?_some hf
    obtain ⟨op', hop', rfl⟩ := List.mem_map.mp (List.mem_of_find?_eq_some hf)
    exact ⟨_, rfl, (hm.eq_of_name hop' hop hname).2⟩

theorem Program.Made.runOperation_eq {op : Operation} (hop : op ∈ p.operations) {α : Type}
    (arith : Arithmetic α) (env : Program.Environment α) : p.runOperation arith env op =
      op.inputNames.mapM (Program.Environment.find env) >>= fun operands =>
        op.kernel.call arith op.labels operands >>= fun t => .ok ((op.result.name, t) :: env) := by
  obtain ⟨k, hfind, hk⟩ := hm.find?_kernels hop
  have hcall : k.call arith = op.kernel.call arith := by
    change k.plain.call arith = op.kernel.plain.call arith
    rw [hk]
  rw [Program.runOperation, hfind]
  dsimp only
  rw [hcall]
  rfl

theorem Program.Made.nodup_names : (p.kernels.map Kernel.name ++ [entryName]).Nodup := by
  refine List.nodup_append.mpr ⟨nodup_distinctBy Kernel.name _, List.nodup_singleton _, ?_⟩
  rintro name hname _ hentry rfl
  obtain ⟨k, hk, rfl⟩ := List.mem_map.mp hname
  obtain ⟨op, hop, rfl⟩ := List.mem_map.mp (mem_of_mem_distinctBy hk)
  obtain ⟨s, -, hn, hmade⟩ := hm op hop
  exact (hmade.isFor.name_ne hn).1 (List.mem_singleton.mp hentry)

end

end Einsum
