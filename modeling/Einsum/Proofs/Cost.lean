import Einsum.Proofs.Linkage
import Einsum.Proofs.Metered
import Einsum.Proofs.Rounding

namespace Einsum

def Sizes.assignment (sizes : Sizes Int) : Assignment := fun l => ((sizes.lookup l).getD 0).toNat

def Sizes.Cover (sizes : Sizes Int) (g : Group) : Prop :=
  ∀ l ∈ g, ∃ n, sizes.lookup l = some n ∧ 1 ≤ n

def Subscripts.tallyAt (s : Subscripts) (σ : Assignment) : Tally where
  operations := s.operationCount (s.output.map σ).prod (s.summed.map σ).prod
  elementsIn := (s.inputs.map fun g => (g.map σ).prod).sum
  elementsOut := (s.output.map σ).prod
  summed := s.summed

section

variable {α β : Type} {f : α → Except Error β} {g : α → β} {as : List α}

/-- Where only one thing can go wrong, it does not matter which member it goes wrong with. -/
theorem mapM_eq_ite {p : α → Prop} [DecidablePred p] {e : Error}
    (h : ∀ a ∈ as, f a = if p a then .ok (g a) else .error e) :
    as.mapM f = if ∀ a ∈ as, p a then .ok (as.map g) else .error e := by
  induction as with
  | nil => exact (if_pos fun a ha => absurd ha List.not_mem_nil).symm
  | cons a as ih =>
    rw [List.forall_mem_cons] at h
    rw [List.mapM_cons, h.1, ih h.2]
    by_cases ha : p a
    · by_cases hs : ∀ a ∈ as, p a
      · rw [if_pos ha, if_pos hs, if_pos (List.forall_mem_cons.mpr ⟨ha, hs⟩)]
        rfl
      · rw [if_pos ha, if_neg hs, if_neg fun hc => hs (List.forall_mem_cons.mp hc).2]
        rfl
    · rw [if_neg ha, if_neg fun hc => ha (List.forall_mem_cons.mp hc).1]
      rfl

end

section

variable {sizes : Sizes Int}

theorem elementCount_eq {g : Group} (h : sizes.Cover g) :
    elementCount sizes g = .ok (g.map sizes.assignment).prod := by
  induction g with
  | nil => rfl
  | cons l g ih =>
    obtain ⟨n, hn, hpos⟩ := h l List.mem_cons_self
    have hsize : (max 1 n).toNat = sizes.assignment l := by
      rw [max_eq_right hpos, Sizes.assignment, hn, Option.getD_some]
    rw [elementCount, hn]
    dsimp only
    rw [ih fun m hm => h m (List.mem_cons_of_mem l hm), hsize, List.map_cons, List.prod_cons]
    rfl

theorem tally_eq {s : Subscripts} (hs : s.Validated) (h : sizes.Cover s.axes) :
    s.tally sizes = if (s.tallyAt sizes.assignment).operations < twoPow 1024 - twoPow 970 then
      .ok (s.tallyAt sizes.assignment) else .error .tooLargeForFloat := by
  have hout := elementCount_eq fun l hl => h l (hs.output_subset l hl)
  have hsum := elementCount_eq fun l hl => h l (s.mem_summed.mp hl).1
  have hin :=
    mapM_eq_ok fun g hg => elementCount_eq fun l hl => h l (s.mem_axes.mpr ⟨g, hg, hl⟩)
  rw [Subscripts.tally, hout, hsum, hin]
  simp only [ok_bind, Number.infinity_le_ofInt]
  split
  next hb => exact (if_neg (Nat.not_lt.mpr hb)).symm
  next hb => exact (if_pos (Nat.not_le.mp hb)).symm

end

section

variable {sizes sizes' : Sizes Int}

def Sizes.Extends (sizes' sizes : Sizes Int) : Prop :=
  ∀ l, (sizes.lookup l).isSome → (sizes'.lookup l).isSome

theorem learnAxis_extends {operand axis : Nat} {l : Label} {n : Int}
    (h : learnAxis operand axis sizes l n = .ok sizes') :
    sizes'.Extends sizes ∧ (sizes'.lookup l).isSome := by
  rw [learnAxis] at h
  split at h
  next hl =>
    cases h
    refine ⟨fun m hm => ?_, ?_⟩
    · rw [List.lookup_append, Option.isSome_or, hm, Bool.true_or]
    · simp [List.lookup_append]
  next m hl =>
    split at h
    · cases h
      exact ⟨fun _ hm => hm, by rw [hl]; rfl⟩
    · cases h

theorem learnAxes_extends {operand axis : Nat} {g : Group} {ns : List Size}
    (hlen : ns.length = g.length) (h : learnAxes operand axis sizes g ns = .ok sizes') :
    sizes'.Extends sizes ∧ ∀ l ∈ g, (sizes'.lookup l).isSome := by
  induction g generalizing axis sizes ns with
  | nil =>
    obtain rfl := List.length_eq_zero_iff.mp hlen
    cases h
    exact ⟨fun _ hm => hm, fun l hl => absurd hl List.not_mem_nil⟩
  | cons l g ih =>
    obtain ⟨n, ns, rfl⟩ := List.exists_cons_of_length_eq_add_one hlen
    rw [learnAxes] at h
    obtain ⟨n, rfl, hlearn⟩ := bind_eq_ok h
    obtain ⟨mid, hmid, hrest⟩ := bind_eq_ok hlearn
    obtain ⟨hext, hmem⟩ := ih (Nat.succ_inj.mp hlen) hrest
    cases hl : learnAxis operand axis sizes l n with
    | error r =>
      rw [hl] at hmid
      cases hmid
    | ok known =>
      rw [hl] at hmid
      cases hmid
      obtain ⟨hext', hl'⟩ := learnAxis_extends hl
      exact ⟨fun m hm => hext m (hext' m hm), List.forall_mem_cons.mpr ⟨hext l hl', hmem⟩⟩

theorem learnOperands_extends {operand : Nat} {gs : List Group}
    {shapes : List (Except Error (List Size))} (hlen : shapes.length = gs.length)
    (h : learnOperands operand sizes gs shapes = .ok sizes') :
    sizes'.Extends sizes ∧ ∀ g ∈ gs, ∀ l ∈ g, (sizes'.lookup l).isSome := by
  induction gs generalizing operand sizes shapes with
  | nil =>
    obtain rfl := List.length_eq_zero_iff.mp hlen
    cases h
    exact ⟨fun _ hm => hm, fun g hg => absurd hg List.not_mem_nil⟩
  | cons g gs ih =>
    obtain ⟨shape, shapes, rfl⟩ := List.exists_cons_of_length_eq_add_one hlen
    rw [learnOperands] at h
    obtain ⟨shape, rfl, hlearn⟩ := bind_eq_ok h
    dsimp only at hlearn
    split at hlearn
    · cases hlearn
    next hrank =>
      obtain ⟨mid, hmid, hrest⟩ := bind_eq_ok hlearn
      obtain ⟨hext', hg⟩ := learnAxes_extends (not_not.mp hrank) hmid
      obtain ⟨hext, hmem⟩ := ih (Nat.succ_inj.mp hlen) hrest
      exact ⟨fun m hm => hext m (hext' m hm), List.forall_mem_cons.mpr
        ⟨fun l hl => hext l (hg l hl), hmem⟩⟩

/-- Shapes that fit the subscripts tell the size of each label. -/
theorem labelSizes_cover {s : Subscripts} {shapes : List (Except Error (List Size))}
    (h : s.labelSizes shapes = .ok sizes) (hpos : ∀ q ∈ sizes, 1 ≤ q.2) :
    sizes.Cover s.axes := by
  rw [Subscripts.labelSizes] at h
  split at h
  · cases h
  next hlen =>
    intro l hl
    obtain ⟨g, hg, hlg⟩ := s.mem_axes.mp hl
    obtain ⟨n, hn⟩ :=
      Option.isSome_iff_exists.mp ((learnOperands_extends (not_not.mp hlen) h).2 g hg l hlg)
    exact ⟨n, hn, hpos _ (mem_of_lookup hn)⟩

end

theorem Subscripts.Validated.summed_canonical_perm {s : Subscripts} (hs : s.Validated) :
    (s.canonical.summed.map (writtenLabel s.labels)).Perm s.summed := by
  have hwritten : (s.summed.map s.canonicalLabel).map (writtenLabel s.labels) = s.summed := by
    rw [List.map_map]
    refine (List.map_congr_left fun l hl => ?_).trans (List.map_id _)
    exact writtenLabel_canonicalLabel hs.lettered (s.mem_labels.mpr (.inl (s.mem_summed.mp hl).1))
  have hp := (summed_relabel_perm (canonicalLabel_injOn hs.lettered)).map (writtenLabel s.labels)
  rwa [hwritten] at hp

namespace Kernel.IsFor

variable {c : Config} {s : Subscripts} {k : Kernel} (hk : k.IsFor c s) (hs : s.Validated)
  {σ : Assignment}

include hk hs

theorem kernelBody_eq : kernelBody k.pattern (k.pattern.kind c.specialCases) = .ok k.body := by
  rw [hk.pattern, kind_canonical hs]
  exact hk.body

theorem validated_pattern : k.pattern.Validated := hk.pattern ▸ hs.canonical

theorem operations_eq {τ : Assignment}
    (hτ : ∀ l ∈ k.pattern.axes, τ l = σ (writtenLabel s.labels l)) :
    k.body.operations τ = (s.tallyAt σ).operations := by
  have hv := hk.validated_pattern hs
  have hout : k.pattern.output.map τ = s.output.map σ := by
    rw [← Subscripts.map_output_canonical hs, ← hk.pattern]
    exact List.map_congr_left fun l hl => hτ l (hv.output_subset l hl)
  have hsum : (k.pattern.summed.map τ).prod = (s.summed.map σ).prod := by
    have hmap : k.pattern.summed.map τ =
        (k.pattern.summed.map (writtenLabel s.labels)).map σ := by
      rw [List.map_map]
      exact List.map_congr_left fun l hl => hτ l (k.pattern.mem_summed.mp hl).1
    rw [hmap, hk.pattern]
    exact (hs.summed_canonical_perm.map σ).prod_eq
  have hempty : k.pattern.summed.isEmpty = s.summed.isEmpty := by
    rw [hk.pattern, ← hs.summed_canonical_perm.isEmpty_eq, List.isEmpty_map]
  have hlen : k.pattern.inputs.length = s.inputs.length := by
    rw [hk.pattern]
    exact List.length_map _
  rw [operations_kernelBody (hk.kernelBody_eq hs), hout, hsum, Subscripts.operationCount,
    hempty, hlen]
  rfl

section

variable {α : Type} {arith : Arithmetic α} {us : List (Tensor α)}
  (hu : us.map Tensor.shape = s.inputs.map fun g => g.map σ)

include hu

theorem meter_eq : k.meter arith us s.labels =
    (k.call arith s.labels us).map fun r => ⟨r, (s.tallyAt σ).operations⟩ := by
  apply Kernel.meter_eq
  intro sizes hsizes
  have hshapes := shapes_canonical hs hu
  rw [← hk.pattern] at hshapes
  obtain ⟨known, hknown, hrun⟩ := runChecks_prologue s.labels hshapes
  obtain rfl := Except.ok.inj (hrun.symm.trans hsizes)
  refine hk.operations_eq hs fun l hl => ?_
  have hl' : l ∈ k.pattern.inputs.flatten := hl
  rw [Kernel.assignment, hknown l, if_pos hl']
  rfl

theorem shape_eq {r : Tensor α} (hr : k.call arith s.labels us = .ok r) :
    r.shape = s.output.map σ ∧ r.IsFull := by
  have hlen : us.length = s.inputs.length := by simpa using congrArg List.length hu
  rw [hk.call_eq_perform hlen] at hr
  have hlike := alike_of_perform arith hs hu hr
  exact ⟨hlike.shape, hlike.isFull (Tensor.isFull_fill ..)⟩

end

theorem reduced_perm :
    ((k.body.loopLabels.filter (· ∉ k.pattern.output)).map (writtenLabel s.labels)).Perm
      s.summed := by
  have hp := (loopLabels_reduced (hk.kernelBody_eq hs)).map (writtenLabel s.labels)
  rw [hk.pattern] at hp ⊢
  exact hp.trans hs.summed_canonical_perm

end Kernel.IsFor

/-- An operation at given sizes takes what a tally says: its kernel carries out so many
multiplications and additions, whatever its elements are and whether or not it can be called; it
reads and makes so many elements, and runs over the labels that are summed beside those of the
result. -/
structure Operation.Takes (op : Operation) (σ : Assignment) (t : Tally) : Prop where
  called : ∀ {α : Type} (arith : Arithmetic α) (us : List (Tensor α)),
    (us.map Tensor.shape = op.subscripts.inputs.map fun g => g.map σ) →
      op.kernel.meter arith us op.labels =
        (op.kernel.call arith op.labels us).map fun r => ⟨r, t.operations⟩
  looped : ∀ {α : Type} (arith : Arithmetic α) (us : List (Tensor α)) (a : Assignment)
    (st : Store α),
    (op.kernel.body.meter arith us (σ ∘ writtenLabel op.labels) a st).operations = t.operations
  read : ∀ {α : Type} (us : List (Tensor α)),
    (us.map Tensor.shape = op.subscripts.inputs.map fun g => g.map σ) →
      (us.map fun u => u.shape.size).sum = t.elementsIn
  made : ∀ {α : Type} (arith : Arithmetic α) (us : List (Tensor α)) (r : Tensor α),
    (us.map Tensor.shape = op.subscripts.inputs.map fun g => g.map σ) →
      op.kernel.call arith op.labels us = .ok r → r.data.size = t.elementsOut
  reduced : ((op.kernel.body.loopLabels.filter (· ∉ op.kernel.pattern.output)).map
    (writtenLabel op.labels)).Perm t.summed

theorem Kernel.IsFor.takes {c : Config} {op : Operation} (hk : op.kernel.IsFor c op.subscripts)
    (hs : op.subscripts.Validated) (hl : op.labels = op.subscripts.labels) (σ : Assignment) :
    op.Takes σ (op.subscripts.tallyAt σ) where
  called arith us hu := hl ▸ hk.meter_eq hs hu
  looped arith us a st := by
    rw [Block.operations_meter, hl]
    exact hk.operations_eq hs fun l _ => rfl
  read us hu := by
    have hsize := congrArg (List.map Shape.size) hu
    rw [List.map_map, List.map_map] at hsize
    exact congrArg List.sum hsize
  made arith us r hu hr := by
    obtain ⟨hshape, hfull⟩ := hk.shape_eq hs hu (hl ▸ hr)
    rw [hfull, hshape]
    rfl
  reduced := hl ▸ hk.reduced_perm hs

section

variable {c : Config} {p : Path} {ops : List Operation}

theorem Operation.Performs.subscripts {op : Operation} {s : Step} (h : op.Performs c s) :
    op.subscripts = s.subscripts := by
  rw [Operation.subscripts, h.inputs, h.result]
  rfl

theorem Lowered.subscripts (h : Lowered c p ops) :
    ops.map Operation.subscripts = p.kernelSubscripts ∧
      ∀ op ∈ ops, op.kernel.IsFor c op.subscripts ∧ op.labels = op.subscripts.labels := by
  cases h with
  | @single op steps one kernel inputs result labels =>
    have hop : op.subscripts = p.subscripts := by
      rw [Operation.subscripts, inputs, result, labels_operandTensors]
      rfl
    rw [kernelSubscripts_of_eq steps, List.map_singleton, List.forall_mem_singleton, hop]
    exact ⟨rfl, kernel, labels⟩
  | steps ne contracts performs =>
    rw [kernelSubscripts_of_ne ne]
    constructor
    · rw [← List.forall₂_eq_eq_eq, List.forall₂_map_left_iff, List.forall₂_map_right_iff]
      exact (performs.imp fun _ _ hp => hp.subscripts).flip
    · intro op hop
      obtain ⟨s, -, hp⟩ := exists_of_mem_right performs hop
      rw [hp.subscripts]
      exact ⟨hp.kernel, hp.labels⟩

theorem Path.Reaches.tally_eq (h : p.Reaches) (hs : p.subscripts.Validated) {sizes : Sizes Int}
    (hz : sizes.Cover p.subscripts.axes) :
    let tallies := p.kernelSubscripts.map fun s => s.tallyAt sizes.assignment
    p.tally sizes = if ∀ t ∈ tallies, t.operations < twoPow 1024 - twoPow 970 then .ok tallies
      else .error .tooLargeForFloat := by
  intro tallies
  simp only [tallies, List.forall_mem_map]
  refine mapM_eq_ite fun s hm => ?_
  obtain ⟨hv, ha⟩ := h.validated_kernelSubscripts hs s hm
  exact Einsum.tally_eq hv fun l hl => hz l (ha l hl)

end

section

variable {α : Type} {σ : Assignment}

def Program.Environment.Supplies (env : Program.Environment α) (σ : Assignment)
    (live : List NamedTensor) : Prop :=
  ∀ t ∈ live, ∃ u, env.lookup t.name = some u ∧ u.shape = t.labels.map σ

theorem Program.Environment.Supplies.find {env : Program.Environment α} {live : List NamedTensor}
    (h : env.Supplies σ live) : ∃ us, (live.map NamedTensor.name).mapM env.find = .ok us ∧
      us.map Tensor.shape = (live.map NamedTensor.labels).map fun g => g.map σ := by
  induction live with
  | nil => exact ⟨[], rfl, rfl⟩
  | cons t live ih =>
    obtain ⟨u, hu, hshape⟩ := h t List.mem_cons_self
    obtain ⟨us, hus, hshapes⟩ := ih fun t ht => h t (List.mem_cons_of_mem _ ht)
    refine ⟨u :: us, ?_, ?_⟩
    · rw [List.map_cons, List.mapM_cons, hus, Program.Environment.find, hu]
      rfl
    · rw [List.map_cons, List.map_cons, List.map_cons, hshape, hshapes]

theorem operandEnv_supplies (arith : Arithmetic α) {s : Subscripts} {ts : List (Tensor α)}
    (hts : ts.map Tensor.shape = s.inputs.map fun g => g.map σ) :
    (operandEnv s ts).Supplies σ s.operandTensors := by
  have hlen : s.inputs.length = ts.length := by simpa using (congrArg List.length hts).symm
  have hall : List.Forall₂ (fun (g : Group) (u : Tensor α) => u.shape = g.map σ)
      s.inputs ts := by
    rw [← List.forall₂_eq_eq_eq, List.forall₂_map_left_iff,
      List.forall₂_map_right_iff] at hts
    exact hts.flip
  intro t ht
  exact ⟨_, lookup_operands arith hlen t ht, forall_operandTensors arith hall t ht⟩

/-- On operands of given sizes, each operation is called on arrays of these sizes once those before
it are done. -/
def Program.CallsAt (p : Program) (σ : Assignment) : Prop :=
  ∀ (α : Type) (arith : Arithmetic α) (ts : List (Tensor α)),
    (ts.map Tensor.shape = p.subscripts.inputs.map fun g => g.map σ) →
      ∀ before op after env, p.operations = before ++ op :: after →
        before.foldlM (p.runOperation arith) (p.path.operandNames.zip ts) = .ok env →
          ∃ us, op.inputNames.mapM (Program.Environment.find env) = .ok us ∧
            us.map Tensor.shape = op.subscripts.inputs.map fun g => g.map σ

section

variable {c : Config} {p : Program} (hm : p.Made c) (hl : Lowered c p.path p.operations)
  (hv : ∀ op ∈ p.operations, op.subscripts.Validated) {arith : Arithmetic α}
  {env : Program.Environment α}

include hm hl hv

theorem Program.Environment.Supplies.step {before after : List Operation} {op : Operation}
    (he : p.operations = before ++ op :: after)
    (h : env.Supplies σ (p.subscripts.operandTensors ++ before.map Operation.result))
    {env' : Program.Environment α} (hrun : p.runOperation arith env op = .ok env') :
    env'.Supplies σ (p.subscripts.operandTensors ++ (before ++ [op]).map Operation.result) := by
  have hop : op ∈ p.operations := he ▸ List.mem_append_right before List.mem_cons_self
  obtain ⟨hkernel, hlabels⟩ := hl.subscripts.2 op hop
  obtain ⟨us, hus, hshapes⟩ := Supplies.find fun t ht => h t (hl.causal he t ht)
  rw [hm.runOperation_eq hop] at hrun
  obtain ⟨us', hus', hcall⟩ := bind_eq_ok hrun
  obtain rfl := Except.ok.inj (hus.symm.trans hus')
  obtain ⟨r, hr, hadd⟩ := bind_eq_ok hcall
  obtain rfl := Except.ok.inj hadd
  have hshape := (hkernel.shape_eq (hv op hop) hshapes (hlabels ▸ hr)).1
  -- No tensor there is has the name of the result.
  have hnew : op.result.name ∉ (p.subscripts.operandTensors ++ before.map Operation.result).map
      NamedTensor.name := by
    have hn := hl.nodup_names
    rw [he, List.map_append, ← List.append_assoc] at hn
    intro hmem
    refine (List.nodup_append.mp hn).2.2 _ ?_ _ List.mem_cons_self rfl
    rwa [List.map_append, List.map_map] at hmem
  rw [List.map_append, ← List.append_assoc]
  intro t ht
  rcases List.mem_append.mp ht with ht | ht
  · obtain ⟨u, hu, hs⟩ := h t ht
    have hne : t.name ≠ op.result.name := fun hname => hnew (hname ▸ List.mem_map_of_mem ht)
    refine ⟨u, ?_, hs⟩
    rw [List.lookup_cons, beq_false_of_ne hne]
    exact hu
  · obtain rfl := List.mem_singleton.mp ht
    exact ⟨r, List.lookup_cons_self, hshape⟩

theorem Program.Environment.Supplies.run {before after : List Operation}
    (he : p.operations = before ++ after) {start : Program.Environment α}
    (h : start.Supplies σ p.subscripts.operandTensors)
    (hrun : before.foldlM (p.runOperation arith) start = .ok env) :
    env.Supplies σ (p.subscripts.operandTensors ++ before.map Operation.result) := by
  induction before using List.reverseRecOn generalizing after env with
  | nil =>
    obtain rfl := Except.ok.inj hrun
    rwa [List.map_nil, List.append_nil]
  | append_singleton before op ih =>
    rw [List.append_assoc] at he
    rw [List.foldlM_append] at hrun
    obtain ⟨mid, hmid, hop⟩ := bind_eq_ok hrun
    rw [List.foldlM_cons] at hop
    obtain ⟨last, hlast, hdone⟩ := bind_eq_ok hop
    obtain rfl := Except.ok.inj hdone
    exact (ih he hmid).step hm hl hv he hlast

theorem Program.Made.callsAt : p.CallsAt σ := by
  intro α arith ts hts before op after env he hrun
  have hsupplies := (operandEnv_supplies arith hts).run hm hl hv he hrun
  exact Program.Environment.Supplies.find fun t ht => hsupplies t (hl.causal he t ht)

end

end

/-- The tallies of a path tell what the operations of the program take that is built along it,
whatever the pool that their kernels come from was used for before. There are tallies wherever the
operations can be counted in double precision. -/
theorem Pool.Reachable.build_tally {pool : Pool} (h : pool.Reachable) (c : Config) {text : String}
    {e : Expression} (hp : parse text = .ok e) {n : Int} (hc : e.check n = .ok ())
    {shapes : List (Except Error (List Size))} {sizes : Sizes Int}
    (hz : e.subscripts.labelSizes shapes = .ok sizes) (hpos : ∀ q ∈ sizes, 1 ≤ q.2) :
    ∃ p pool' tallies, pool.build c text n = .ok (p, pool') ∧
      p.path.tally sizes =
        (if ∀ t ∈ tallies, t.operations < twoPow 1024 - twoPow 970 then .ok tallies
        else .error .tooLargeForFloat) ∧
      (∀ t ∈ tallies, t.flops = Scalar.toFloat64 t.operations) ∧
      List.Forall₂ (fun op t => op.Takes sizes.assignment t) p.operations tallies ∧
        p.CallsAt sizes.assignment := by
  obtain ⟨p, pool', hb, hfor, -, hops, -⟩ := h.sound.compile_of_checked hp hc c
  have hsub := hfor.subscripts hp hc
  have hs : p.path.subscripts.Validated := hsub ▸ validated_of_parse hp hc
  have hreach := hfor.reaches hp hc
  have hmade := hreach.made hs hops
  obtain ⟨hkernels, hops⟩ := hfor.operations.subscripts
  have hv : ∀ op ∈ p.operations, op.subscripts.Validated := fun op hop =>
    (hreach.validated_kernelSubscripts hs _ (hkernels ▸ List.mem_map_of_mem hop)).1
  refine ⟨p, pool', p.path.kernelSubscripts.map fun s => s.tallyAt sizes.assignment, hb, ?_,
    fun _ _ => rfl, ?_, hmade.callsAt hfor.operations hv⟩
  · exact hreach.tally_eq hs (hsub ▸ labelSizes_cover hz hpos)
  · rw [← hkernels, List.map_map, List.forall₂_map_right_iff]
    exact List.forall₂_same.mpr fun op hop => (hops op hop).1.takes (hv op hop) (hops op hop).2 _

theorem Pool.Reachable.build_tally_of_chain :
    let text := "iij,jk,kl,mn->lim"
    let e : Expression :=
      ⟨⟨[['i', 'i', 'j'], ['j', 'k'], ['k', 'l'], ['m', 'n']], ['l', 'i', 'm']⟩, true, text⟩
    let sizes : Sizes Int := [('i', 2), ('j', 3), ('k', 4), ('l', 5), ('m', 2), ('n', 6)]
    let tallies : List Tally :=
      [⟨120, 32, 15, ['k']⟩, ⟨60, 27, 10, ['j']⟩, ⟨240, 22, 20, ['n']⟩]
    parse text = .ok e ∧
      e.subscripts.labelSizes ([[2, 2, 3], [3, 4], [4, 5], [2, 6]].map plainShape) = .ok sizes ∧
        ∃ p pool', Pool.build { cache := some {} } {} text 4 = .ok (p, pool') ∧
          p.path.tally sizes = .ok tallies ∧
          List.Forall₂ (fun op t => op.Takes sizes.assignment t) p.operations tallies ∧
            p.CallsAt sizes.assignment := by
  intro text e sizes tallies
  have hp : parse text = .ok e := by decide +kernel
  have hz : e.subscripts.labelSizes ([[2, 2, 3], [3, 4], [4, 5], [2, 6]].map plainShape) =
      .ok sizes := rfl
  obtain ⟨p, pool', tallies', hb, htally, -, htakes, hcalls⟩ :=
    Pool.Reachable.build_tally (.start 0) {} hp (n := 4) rfl hz (by decide)
  have hvalue : (Pool.build { cache := some {} } {} text 4).toOption.map
      (fun r => (r.1.path.tally sizes).toOption) = some (some tallies) := by decide +kernel
  rw [hb] at hvalue
  have hsome : (p.path.tally sizes).toOption = some tallies := Option.some.inj hvalue
  rw [htally] at hsome
  split at hsome
  next hsmall =>
    obtain rfl := Option.some.inj hsome
    exact ⟨hp, hz, p, pool', hb, htally.trans (if_pos hsmall), htakes, hcalls⟩
  next => cases hsome

end Einsum
