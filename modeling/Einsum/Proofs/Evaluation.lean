import Einsum.Proofs.Lowering

namespace Einsum

/-- The sum of the products of live tensors over the labels that the result lacks. -/
def liveValue (σ : Assignment) (output : Group) (φ : NamedTensor → Factor)
    (live : List NamedTensor) :
    Assignment → Int :=
  sumOver σ (Subscripts.mk (live.map NamedTensor.labels) output).summed (productAt (live.map φ))

section

variable {σ : Assignment} {output : Group} {n : Nat} {live rest : List NamedTensor}
  {left right : NamedTensor} {φ : NamedTensor → Factor}

theorem mem_live_summed {l : Label} :
    l ∈ (Subscripts.mk (live.map NamedTensor.labels) output).summed ↔ l ∈ axesOf live ∧
      l ∉ output :=
  Subscripts.mem_summed _

theorem liveValue_perm {live' : List NamedTensor} (hp : live.Perm live') :
    liveValue σ output φ live = liveValue σ output φ live' := by
  have hprod : productAt (live.map φ) = productAt (live'.map φ) := by
    funext a
    exact ((hp.map φ).map _).prod_eq
  funext a
  rw [liveValue, liveValue, hprod]
  apply sumOver_of_mem_iff (Subscripts.nodup_summed _) (Subscripts.nodup_summed _)
  intro l
  simp only [mem_live_summed, mem_axesOf, hp.mem_iff]

theorem dependsOn_productAt_map (h : ∀ t ∈ live, DependsOn (φ t).value {l | l ∈ t.labels}) :
    DependsOn (productAt (live.map φ)) {l | l ∈ axesOf live} := by
  intro a b hab
  rw [productAt, productAt, List.map_map, List.map_map]
  congr 1
  apply List.map_congr_left
  intro t ht
  exact h t ht fun l hl => hab l (mem_axesOf.mpr ⟨t, ht, hl⟩)

/-- A step sums early what the other live tensors do not need, and the value stays the same. -/
theorem liveValue_step (hc : Covers output (left :: right :: rest))
    (hφ : ∀ t ∈ rest, DependsOn (φ t).value {l | l ∈ t.labels})
    (hr : (stepOf output n left right rest).result ∉ rest) {f : Factor}
    (hf : f.value = sumOver σ (stepOf output n left right rest).summed
      (productAt [φ left, φ right])) :
    liveValue σ output (Function.update φ (stepOf output n left right rest).result f)
        ((stepOf output n left right rest).result :: rest) =
      liveValue σ output φ (left :: right :: rest) := by
  let s := stepOf output n left right rest
  let later := (Subscripts.mk ((s.result :: rest).map NamedTensor.labels) output).summed
  have hlater (l : Label) : l ∈ later ↔ (l ∈ s.result.labels ∨ l ∈ axesOf rest) ∧
      l ∉ output := by
    rw [mem_live_summed, axesOf, List.map_cons, List.flatten_cons, List.mem_append]
    rfl
  have hall (l : Label) : l ∈ axesOf (left :: right :: rest) ↔
      (l ∈ left.labels ∨ l ∈ right.labels) ∨ l ∈ axesOf rest := by
    simp [axesOf, or_assoc]
  have hnodup : (later ++ s.summed).Nodup := by
    refine List.nodup_append.mpr ⟨Subscripts.nodup_summed _, nodup_split_summed, ?_⟩
    rintro l hl m hm rfl
    rw [hlater, mem_stepOf_result hc] at hl
    rw [mem_stepOf_summed] at hm
    grind
  have hprod : productAt ((left :: right :: rest).map φ) =
      fun b => productAt [φ left, φ right] b * productAt (rest.map φ) b := by
    funext b
    simp [productAt, mul_assoc]
  have hrest : rest.map (Function.update φ s.result f) = rest.map φ :=
    List.map_congr_left fun t ht => Function.update_of_ne
      (fun he : t = s.result => hr (he ▸ ht)) _ _
  funext a
  calc sumOver σ later (productAt ((s.result :: rest).map (Function.update φ s.result f))) a
    _ = sumOver σ later (sumOver σ s.summed (productAt ((left :: right :: rest).map φ))) a := by
        apply sumOver_congr
        intro b _
        rw [List.map_cons, hrest, Function.update_self, productAt, List.map_cons,
          List.prod_cons, hf, ← productAt, hprod]
        exact (sumOver_mul (dependsOn_productAt_map hφ)
          fun l hl => (mem_stepOf_summed.mp hl).2.2).symm
    _ = sumOver σ (later ++ s.summed) (productAt ((left :: right :: rest).map φ)) a :=
        sumOver_append.symm
    _ = liveValue σ output φ (left :: right :: rest) a := by
        apply sumOver_of_mem_iff hnodup (Subscripts.nodup_summed _)
        intro l
        rw [List.mem_append, hlater, mem_live_summed, hall, mem_stepOf_result hc, mem_stepOf_summed]
        grind

end

section

variable {α : Type} {env : Program.Environment α} {φ : NamedTensor → Tensor α}

theorem mapM_find {live : List NamedTensor} (h : ∀ t ∈ live, env.lookup t.name = some (φ t)) :
    (live.map NamedTensor.name).mapM (Program.Environment.find env) = .ok (live.map φ) := by
  rw [List.mapM_map]
  apply mapM_eq_ok
  intro t ht
  rw [Function.comp, Program.Environment.find, h t ht]

theorem runOperation_eq (arith : Arithmetic α) {k : Kernel} {p : Program} {op : Operation}
    (hk : p.kernels.find? (·.name = op.kernel.name) = some k)
    (h : ∀ t ∈ op.inputs, env.lookup t.name = some (φ t)) :
    p.runOperation arith env op = k.call arith op.labels (op.inputs.map φ) >>= fun t =>
      .ok ((op.result.name, t) :: env) := by
  rw [Program.runOperation, hk, Operation.inputNames, mapM_find h]
  rfl

end

structure Holds (d : ElemType) (σ : Assignment) (env : Program.Environment Scalar)
    (φ : NamedTensor → Factor) (live : List NamedTensor) : Prop where
  labels : ∀ t ∈ live, (φ t).labels = t.labels
  find : ∀ t ∈ live, env.lookup t.name = some (φ t).tensor
  exact : ∀ t ∈ live, (φ t).Exact d σ

section

variable {d : ElemType} {σ : Assignment} {c : Config} {env : Program.Environment Scalar}
  {φ : NamedTensor → Factor} {live : List NamedTensor}

theorem Holds.mono {live' : List NamedTensor} (h : Holds d σ env φ live)
    (hs : ∀ t ∈ live', t ∈ live) :
    Holds d σ env φ live' :=
  ⟨fun t ht => h.labels t (hs t ht), fun t ht => h.find t (hs t ht),
    fun t ht => h.exact t (hs t ht)⟩

theorem runOperation_yields {s : Subscripts} {k : Kernel} {p : Program} {op : Operation}
    (hd : d.IsExact) (hk : p.kernels.find? (·.name = op.kernel.name) = some k) (hfor : k.IsFor c s)
    (hs : s.Validated) (hi : s.inputs = op.inputs.map NamedTensor.labels) (hne : op.inputs ≠ [])
    (hh : Holds d σ env φ op.inputs) (hc : d = .bool → (s.summed.map σ).prod < 2 ^ 64) :
    Yields (Fits d (s.output.map σ))
      (fun env' => ∃ t, env' = (op.result.name, t) :: env ∧
        Factor.Exact d σ ⟨s.output, t, sumOver σ s.summed (productAt (op.inputs.map φ))⟩)
      (p.runOperation Scalar.arithmetic env op) := by
  have hfs : s.inputs = (op.inputs.map φ).map Factor.labels := by
    rw [hi, List.map_map]
    exact List.map_congr_left fun t ht => (hh.labels t ht).symm
  have hf : ∀ f ∈ op.inputs.map φ, f.Exact d σ := by
    intro f hf
    obtain ⟨t, ht, rfl⟩ := List.mem_map.mp hf
    exact hh.exact t ht
  have hne' : op.inputs.map φ ≠ [] := by simpa using hne
  have hy := call_canonical_yields hs hd hfor.pattern hfor.body (shapes_of_exact hfs hf)
    (common_of_exact hne' hf) (products_of_exact hd hfs hne' hf) hc op.labels
  have hr : p.runOperation Scalar.arithmetic env op =
      k.call Scalar.arithmetic op.labels ((op.inputs.map φ).map Factor.tensor) >>= fun t =>
        .ok ((op.result.name, t) :: env) := by
    rw [List.map_map]
    exact runOperation_eq Scalar.arithmetic hk hh.find
  rw [hr]
  refine (hy.bind (q := True) fun t ht => ?_).imp (and_iff_left trivial) fun _ h => h
  exact Yields.ok ⟨t, rfl, ht⟩

theorem Holds.insert {r : NamedTensor} {f : Factor} (h : Holds d σ env φ live)
    (hr : r.name ∉ live.map NamedTensor.name) (hl : f.labels = r.labels) (hx : f.Exact d σ) :
    Holds d σ ((r.name, f.tensor) :: env) (Function.update φ r f) (r :: live) := by
  have hname (t : NamedTensor) (ht : t ∈ live) : (t.name == r.name) = false := by
    simpa using fun he : t.name = r.name => hr (he ▸ List.mem_map_of_mem ht)
  have hne (t : NamedTensor) (ht : t ∈ live) : t ≠ r :=
    fun he => hr (he ▸ List.mem_map_of_mem ht)
  refine ⟨?_, ?_, ?_⟩ <;> intro t ht <;> rcases List.mem_cons.mp ht with rfl | ht
  · rw [Function.update_self, hl]
  · rw [Function.update_of_ne (hne t ht), h.labels t ht]
  · rw [Function.update_self, List.lookup_cons_self]
  · rw [Function.update_of_ne (hne t ht), List.lookup, hname t ht]
    exact h.find t ht
  · rwa [Function.update_self]
  · rw [Function.update_of_ne (hne t ht)]
    exact h.exact t ht

theorem liveValue_final (output : Group) :
    liveValue σ output φ [finalTensor output] = (φ (finalTensor output)).value := by
  have hs : (Subscripts.mk [output] output).summed = [] := by
    apply List.eq_nil_iff_forall_not_mem.mpr
    intro l hl
    simpa [Subscripts.axes] using (Subscripts.mem_summed _).mp hl
  funext a
  rw [liveValue, List.map_singleton, finalTensor, hs, sumOver_nil]
  simp [productAt]

def Delivers (d : ElemType) (σ : Assignment) (output : Group) (value : Assignment → Int)
    (env : Program.Environment Scalar) : Prop :=
  ∃ t, env.lookup finalName = some t ∧ Factor.Exact d σ ⟨output, t, value⟩

/-- Operations that link the steps of a contraction leave the value of the live tensors in the
environment, if each of their results can be allocated. -/
theorem run_contracts {p : Program} {output : Group} {n : Nat} {steps : List Step}
    {ops : List Operation} (hd : d.IsExact) (h : Contracts output n live steps)
    (hops : List.Forall₂ (Operation.Links c p.kernels) steps ops)
    (hv : ∀ s ∈ steps, s.subscripts.Validated) (hf : Fresh n live) (hc : Covers output live)
    (hh : Holds d σ env φ live)
    (hb : d = .bool → ∀ s ∈ steps, (s.subscripts.summed.map σ).prod < 2 ^ 64) :
    Yields (∀ s ∈ steps, Fits d (s.subscripts.output.map σ))
      (Delivers d σ output (liveValue σ output φ live))
      (ops.foldlM (p.runOperation Scalar.arithmetic) env) := by
  induction h generalizing ops env φ with
  | done =>
    cases hops
    have hl : (φ (finalTensor output)).labels = output := hh.labels _ (List.mem_singleton_self _)
    refine (Yields.ok ⟨_, hh.find _ (List.mem_singleton_self _), ?_⟩).imp (by simp) fun _ h => h
    have hx := hh.exact _ (List.mem_singleton_self _)
    rw [liveValue_final]
    generalize φ (finalTensor output) = f at hl hx
    subst hl
    exact hx
  | @step n live rest left right steps live_perm tail ih =>
    obtain ⟨op, ops, hop, htail, rfl⟩ := List.forall₂_cons_left_iff.mp hops
    obtain ⟨k, hk, hfor⟩ := hop.kernel
    have hf' := hf.perm live_perm
    have hc' := hc.perm live_perm
    have hh' := hh.mono fun t ht => live_perm.mem_iff.mpr ht
    have hin : Holds d σ env φ op.inputs := hh'.mono fun t ht => by
      rw [hop.inputs] at ht
      exact List.mem_append_left rest ht
    have hrest : Holds d σ env φ rest :=
      hh'.mono fun t ht => List.mem_cons_of_mem _ (List.mem_cons_of_mem _ ht)
    have hy := runOperation_yields hd hk hfor (hv _ List.mem_cons_self) (by rw [hop.inputs]; rfl)
      (by rw [hop.inputs]; exact List.cons_ne_nil _ _) hin
        fun hbool => hb hbool _ List.mem_cons_self
    rw [List.foldlM_cons, List.forall_mem_cons]
    refine hy.bind ?_
    rintro _ ⟨t, rfl, hx⟩
    rw [hop.inputs, stepOf_subscripts_summed hc'] at hx
    -- The result takes the place of the two factors, and the value of what is live stays the same.
    have hi := ih htail (fun s hs => hv s (List.mem_cons_of_mem _ hs)) hf'.step hc'.step
      (hrest.insert hf'.result_notMem rfl hx)
        (fun hbool s hs => hb hbool s (List.mem_cons_of_mem _ hs))
    rw [liveValue_step hc' (fun t ht => hrest.labels t ht ▸ (hrest.exact t ht).depends)
      (hf'.notMem_rest output) rfl, ← liveValue_perm live_perm] at hi
    rwa [hop.result]

end

end Einsum
