import Einsum.Proofs.Closed
import Einsum.Proofs.Compilation
import Einsum.Proofs.Program

namespace Einsum

section

variable {α : Type} (arith : Arithmetic α) (special : Bool)

def Subscripts.perform (s : Subscripts) (ts : List (Tensor α)) : Except Error (Tensor α) :=
  Kernel.emit 0 s.canonical (s.kind special) "" >>= fun k => k.call arith s.labels ts

def runSteps (φ : NamedTensor → Tensor α) :
    List Step → Except Error (NamedTensor → Tensor α)
  | [] => .ok φ
  | s :: steps => s.subscripts.perform arith special [φ s.left, φ s.right] >>= fun t =>
    runSteps (Function.update φ s.result t) steps

def Path.value (p : Path) (ts : List (Tensor α)) : Except Error (Tensor α) :=
  if p.steps.isEmpty then p.subscripts.perform arith special ts
  else runSteps arith special (operandAt arith p.subscripts ts) p.steps >>= fun φ =>
    .ok (φ (finalTensor p.subscripts.output))

end

section

variable {α : Type} {arith : Arithmetic α} {c : Config}

theorem Kernel.IsFor.call_eq_perform {k : Kernel} {s : Subscripts} (hk : k.IsFor c s)
    {ts : List (Tensor α)} (hl : ts.length = s.inputs.length) :
    k.call arith s.labels ts = s.perform arith c.specialCases ts := by
  have hcanon : s.canonical.inputs.length = s.inputs.length := List.length_map _
  have hp := hk.pattern
  obtain ⟨serial, name, kind, pattern, body⟩ := k
  dsimp only at hp
  subst hp
  have hcount (serial : Nat) (name : String) (kind : KernelKind) :
      (Kernel.mk serial name kind s.canonical body).checkCount ts.length = .ok () :=
    if_pos (hl.trans hcanon.symm)
  have hb : kernelBody s.canonical (s.kind c.specialCases) = .ok body := hk.body
  simp only [Subscripts.perform, Kernel.emit, hb, Except.map, ok_bind, Kernel.call, hcount]

section

variable {β γ : Type} {φ : NamedTensor → β} {ψ : NamedTensor → γ} {r : NamedTensor}
  {live : List NamedTensor} {x : β} {y : γ}

theorem forall_update₂ {P : NamedTensor → β → γ → Prop} (hr : r ∉ live) (hx : P r x y)
    (h : ∀ t ∈ live, P t (φ t) (ψ t)) :
    ∀ t ∈ r :: live, P t (Function.update φ r x t) (Function.update ψ r y t) := by
  rw [List.forall_mem_cons, Function.update_self, Function.update_self]
  refine ⟨hx, fun t ht => ?_⟩
  have hne : t ≠ r := fun he => hr (he ▸ ht)
  rw [Function.update_of_ne hne, Function.update_of_ne hne]
  exact h t ht

theorem forall_update {P : β → Prop} (hr : r ∉ live) (hx : P x)
    (h : ∀ t ∈ live, P (φ t)) :
    ∀ t ∈ r :: live, P (Function.update φ r x t) :=
  forall_update₂ (P := fun _ b _ => P b) (ψ := φ) (y := x) hr hx h

end

variable {env : Program.Environment α} {φ : NamedTensor → Tensor α}

theorem lookup_insert {live : List NamedTensor}
    (h : ∀ t ∈ live, env.lookup t.name = some (φ t)) {r : NamedTensor}
    (hr : r.name ∉ live.map NamedTensor.name) (x : Tensor α) :
    ∀ t ∈ r :: live, List.lookup t.name ((r.name, x) :: env) =
      some (Function.update φ r x t) := by
  rw [List.forall_mem_cons]
  refine ⟨by rw [List.lookup_cons_self, Function.update_self], fun t ht => ?_⟩
  have hname : t.name ≠ r.name := fun he => hr (he ▸ List.mem_map_of_mem ht)
  have hb : (t.name == r.name) = false := by simpa using hname
  rw [List.lookup_cons, hb, Function.update_of_ne fun he => hname (congrArg NamedTensor.name he)]
  exact h t ht

theorem foldlM_links {p : Program} {output : Group} {n : Nat} {live : List NamedTensor}
    {steps : List Step} {ops : List Operation} (h : Contracts output n live steps)
    (hops : List.Forall₂ (Operation.Links c p.kernels) steps ops) (hf : Fresh n live)
    (hφ : ∀ t ∈ live, env.lookup t.name = some (φ t)) :
    (ops.foldlM (p.runOperation arith) env >>= fun env => Program.Environment.find env finalName) =
      runSteps arith c.specialCases φ steps >>= fun φ => .ok (φ (finalTensor output)) := by
  induction h generalizing ops env φ with
  | done =>
    cases hops
    have ht : env.lookup finalName = some (φ (finalTensor output)) :=
      hφ _ (List.mem_singleton_self _)
    have hfind : Program.Environment.find env finalName = .ok (φ (finalTensor output)) := by
      rw [Program.Environment.find, ht]
    exact hfind
  | @step n live rest left right steps live_perm tail ih =>
    obtain ⟨op, ops, hop, htail, rfl⟩ := List.forall₂_cons_left_iff.mp hops
    obtain ⟨k, hk, hfor⟩ := hop.kernel
    have hf' := hf.perm live_perm
    have hφ' : ∀ t ∈ left :: right :: rest, env.lookup t.name = some (φ t) :=
      fun t ht => hφ t (live_perm.mem_iff.mpr ht)
    have hin : ∀ t ∈ op.inputs, env.lookup t.name = some (φ t) := by
      rw [hop.inputs]
      exact fun t ht => hφ' t (List.mem_append_left rest ht)
    have hrest : ∀ t ∈ rest, env.lookup t.name = some (φ t) :=
      fun t ht => hφ' t (List.mem_cons_of_mem _ (List.mem_cons_of_mem _ ht))
    have hcall : k.call arith op.labels (op.inputs.map φ) =
        (stepOf output n left right rest).subscripts.perform arith c.specialCases
          [φ left, φ right] := by
      rw [hop.inputs, hop.labels]
      exact hfor.call_eq_perform rfl
    rw [List.foldlM_cons, runOperation_eq arith hk hin, hcall, runSteps]
    simp only [stepOf_left, stepOf_right]
    cases (stepOf output n left right rest).subscripts.perform arith c.specialCases
      [φ left, φ right] with
    | error e => rfl
    | ok t =>
      rw [ok_bind, ok_bind, ok_bind, hop.result]
      exact ih htail hf'.step (lookup_insert hrest hf'.result_notMem t)

section

variable (arith) {p : Path} (special : Bool) (ts : List (Tensor α))

theorem Path.value_of_nil (hn : p.steps = []) :
    p.value arith special ts = p.subscripts.perform arith special ts := by
  rw [Path.value, hn]
  rfl

theorem Path.value_of_ne (hn : p.steps ≠ []) :
    p.value arith special ts = runSteps arith special (operandAt arith p.subscripts ts) p.steps >>=
      fun φ =>
      .ok (φ (finalTensor p.subscripts.output)) := by
  have he : p.steps.isEmpty = false := by simpa using hn
  rw [Path.value, he]
  rfl

end

theorem Path.value_of_head {special : Bool} {p : Path} {ts : List (Tensor α)} {first : Step}
    {err : Error} (hfirst : p.steps.head? = some first)
    (herr : first.subscripts.perform arith special
      [operandAt arith p.subscripts ts first.left, operandAt arith p.subscripts ts first.right] =
        .error err) :
    p.value arith special ts = .error err := by
  obtain ⟨steps, hsteps⟩ := List.head?_eq_some_iff.mp hfirst
  have hrun : runSteps arith special (operandAt arith p.subscripts ts) p.steps = .error err := by
    rw [hsteps, runSteps, herr]
    rfl
  have hne : p.steps ≠ [] := hsteps ▸ List.cons_ne_nil _ _
  rw [Path.value_of_ne arith special ts hne, hrun]
  rfl

/-- A program comes to what its path comes to. -/
theorem evaluate_eq_value {p : Path} {ops : List Operation} (hs : p.subscripts.Validated)
    (h : Lowered c p ops) {ts : List (Tensor α)} (hl : p.subscripts.inputs.length = ts.length)
    (serial : Nat) :
    (Program.mk serial p ops).evaluate arith ts = p.value arith c.specialCases ts := by
  rw [evaluate_eq arith hl]
  cases h with
  | @single op steps one kernel inputs result labels =>
    have hfind : (Program.mk serial p [op]).kernels.find? (·.name = op.kernel.name) =
        some op.kernel := by
      simp [Program.kernels, linkedKernels, distinctBy]
    have hin : ∀ t ∈ op.inputs, (operandEnv p.subscripts ts).lookup t.name =
        some (operandAt arith p.subscripts ts t) := inputs ▸ lookup_operands arith hl
    have hcall : op.kernel.call arith op.labels (op.inputs.map (operandAt arith p.subscripts ts)) =
        p.subscripts.perform arith c.specialCases ts := by
      rw [inputs, labels, map_operandAt arith hl]
      exact kernel.call_eq_perform hl.symm
    rw [List.foldlM_cons, runOperation_eq arith hfind hin, hcall,
      Path.value_of_nil arith _ ts steps]
    cases p.subscripts.perform arith c.specialCases ts with
    | error e => rfl
    | ok t =>
      rw [ok_bind, ok_bind, result]
      have hfinal : Program.Environment.find ((finalName, t) :: operandEnv p.subscripts ts)
          finalName = .ok t := by
        rw [Program.Environment.find, List.lookup_cons_self]
      exact hfinal
  | steps ne contracts performs =>
    have hv := validated_steps hs contracts
    rw [Path.value_of_ne arith _ ts ne]
    exact foldlM_links contracts (links_of_performs performs hv)
      (fresh_operandTensors p.subscripts 1) (lookup_operands arith hl)

end

section

variable {α : Type} (arith : Arithmetic α)

theorem run_congr_sizes {operands : List (Tensor α)} {b : Block} {σ τ : Assignment}
    (h : ∀ l ∈ b.loopLabels, σ l = τ l) (a : Assignment) (s : Store α) :
    b.run arith operands σ a s = b.run arith operands τ a s := by
  induction b generalizing a s with
  | atom st => rfl
  | seq b c ihb ihc =>
    rw [Block.loopLabels, List.forall_mem_append] at h
    rw [Block.run, Block.run, ihb h.1, ihc h.2]
  | loop labels b ih =>
    rw [Block.loopLabels, List.forall_mem_append] at h
    rw [Block.run, Block.run, List.map_congr_left h.1]
    congr 1
    funext s ns
    exact ih h.2 _ s

/-- Kernels are made for canonical labels, and can be called wherever the labels agree up to their
names. -/
theorem perform_of_shapes {special : Bool} {s : Subscripts} (hs : s.Validated)
    {ts : List (Tensor α)} {σ : Assignment}
    (hsh : ts.map Tensor.shape = s.inputs.map fun g => g.map σ) {b : Block}
    (hb : kernelBody s.canonical (s.canonical.kind special) = .ok b) :
    s.perform arith special ts =
      zeros arith ((s.output.map σ).map fun n : Nat => (n : Int)) (ts.map Tensor.type) >>=
        fun result => (b.fill arith ts (σ ∘ writtenLabel s.labels) result).outcome := by
  obtain ⟨known, hknown, hcall⟩ := call_of_shapes arith
    (k := ⟨0, Kernel.nameOf s.canonical "", s.kind special, s.canonical, b⟩)
    hs.canonical hb (shapes_canonical hs hsh) s.labels
  have hloops : ∀ l ∈ b.loopLabels, Kernel.assignment known l =
      (σ ∘ writtenLabel s.labels) l := by
    intro l hl
    apply hknown
    rcases (Subscripts.mem_labels _).mp (loopLabels_kernelBody hb l hl) with h | h
    · exact h
    · exact hs.canonical.output_subset l h
  rw [kind_canonical hs] at hb
  rw [Subscripts.perform, Kernel.emit, hb]
  dsimp only [Except.map]
  rw [ok_bind, hcall, Subscripts.map_output_canonical hs]
  congr 1
  funext result
  rw [Block.fill, run_congr_sizes arith hloops]
  rfl

def Arithmetic.blank (d : ElemType) (shape : Shape) : Tensor α := .fill d shape (arith.zero d)

section

variable {s : Subscripts} (hs : s.Validated) {ts : List (Tensor α)} {σ : Assignment}
  (hsh : ts.map Tensor.shape = s.inputs.map fun g => g.map σ)

include hs

theorem length_output_le (σ : Assignment) : (s.output.map σ).length ≤ maxAxes := by
  rw [List.length_map]
  exact (length_le_of_letters hs.output_nodup fun l hl => hs.letters l
    (hs.output_subset l hl)).trans (by decide)

include hsh

theorem perform_of_fits {special : Bool} {b : Block}
    (hb : kernelBody s.canonical (s.canonical.kind special) = .ok b)
    (hf : Fits (.common (ts.map Tensor.type)) (s.output.map σ)) :
    s.perform arith special ts = (b.fill arith ts (σ ∘ writtenLabel s.labels)
      (arith.blank (.common (ts.map Tensor.type)) (s.output.map σ))).outcome := by
  obtain ⟨_, hz, rfl⟩ :=
    (zeros_fill_yields arith (ts.map Tensor.type) _ (length_output_le hs σ)).success hf
  rw [perform_of_shapes arith hs hsh hb, hz]
  rfl

theorem perform_of_not_fits (hf : ¬ Fits (.common (ts.map Tensor.type)) (s.output.map σ)) :
    ∃ e, (e = .arrayTooBig ∨ e = .sizeTooLarge) ∧
      ∀ special, s.perform arith special ts = .error e := by
  have hperform (e : Error)
      (hz : zeros arith ((s.output.map σ).map fun n : Nat => (n : Int)) (ts.map Tensor.type) =
        .error e)
      (special : Bool) : s.perform arith special ts = .error e := by
    obtain ⟨b, hb⟩ := exists_kernelBody s.canonical special
    rw [perform_of_shapes arith hs hsh hb, hz]
    rfl
  rcases (zeros_fill_yields arith (ts.map Tensor.type) _ (length_output_le hs σ)).refusal
    hf with hz | hz
  · exact ⟨_, .inl rfl, hperform _ hz⟩
  · exact ⟨_, .inr rfl, hperform _ hz⟩

theorem alike_of_perform {special : Bool} {t : Tensor α} (h : s.perform arith special ts = .ok t) :
    t.Alike (arith.blank (.common (ts.map Tensor.type)) (s.output.map σ)) := by
  by_cases hf : Fits (.common (ts.map Tensor.type)) (s.output.map σ)
  · obtain ⟨b, hb⟩ := exists_kernelBody s.canonical special
    rw [perform_of_fits arith hs hsh hb hf] at h
    rw [← Store.result_of_outcome h]
    exact b.run_alike arith ts _ .start (.start arith _)
  · obtain ⟨e, -, he⟩ := perform_of_not_fits arith hs hsh hf
    cases h.symm.trans (he special)

end

end

end Einsum
