import Einsum.Program
import Einsum.Proofs.Canonical
import Einsum.Proofs.Check
import Einsum.Proofs.Name

namespace Einsum

/-- A kernel as it is made for subscripts under a configuration. -/
structure Kernel.IsFor (c : Config) (s : Subscripts) (k : Kernel) : Prop where
  pattern : k.pattern = s.canonical
  name : k.name = Kernel.nameOf s.canonical c.kernelPrefix
  body : kernelBody s.canonical (s.kind c.specialCases) = .ok k.body

def Cache.Sound (cache : Cache) : Prop :=
  ∀ e ∈ cache.entries, ∃ serial pattern kind namePrefix,
    Subscripts.Validated pattern ∧ pattern.inputs ≠ [] ∧
      e.1 = Kernel.key pattern kind namePrefix ∧
        Kernel.emit serial pattern kind namePrefix = .ok e.2

theorem Cache.sound_empty : ({} : Cache).Sound := fun _ he => absurd he List.not_mem_nil

def Pool.Sound (pool : Pool) : Prop := ∀ cache, pool.cache = some cache → cache.Sound

theorem Cache.Sound.pool {cache : Cache} (h : cache.Sound) (made : Nat) :
    (Pool.mk (some cache) made).Sound := by
  rintro _ ⟨⟩
  exact h

structure Operation.Performs (c : Config) (s : Step) (op : Operation) : Prop where
  kernel : op.kernel.IsFor c s.subscripts
  inputs : op.inputs = s.reads
  result : op.result = s.result
  labels : op.labels = s.subscripts.labels

section

variable {c : Config} {s u : Subscripts} {k : Kernel}

theorem kind_canonical (hs : s.Validated) (special : Bool) :
    s.canonical.kind special = s.kind special :=
  Subscripts.kind_relabel (Subscripts.canonicalLabel_injOn hs.lettered) special

theorem Subscripts.canonical_inputs_ne_nil (h : s.inputs ≠ []) : s.canonical.inputs ≠ [] := by
  simpa [Subscripts.canonical, Subscripts.relabel] using h

/-- Kernels of one name under one configuration are interchangeable. -/
theorem Kernel.IsFor.of_name (hs : s.Validated) (hu : u.Validated) (hk : k.IsFor c u)
    (h : k.name = Kernel.nameOf s.canonical c.kernelPrefix) : k.IsFor c s := by
  have hc : u.canonical = s.canonical :=
    Kernel.nameOf_inj u.canonical_delimited s.canonical_delimited (hk.name.symm.trans h)
  have hkind : u.kind c.specialCases = s.kind c.specialCases := by
    rw [← kind_canonical hu, hc, kind_canonical hs]
  exact ⟨hc ▸ hk.pattern, h, hc ▸ hkind ▸ hk.body⟩

theorem emit_isFor (hs : s.Validated) (serial : Nat) :
    ∃ k, Kernel.emit serial s.canonical (s.kind c.specialCases) c.kernelPrefix = .ok k ∧
      k.IsFor c s := by
  obtain ⟨b, hb⟩ := exists_kernelBody s.canonical c.specialCases
  rw [kind_canonical hs] at hb
  refine ⟨⟨serial, Kernel.nameOf s.canonical c.kernelPrefix, s.kind c.specialCases,
    s.canonical, b⟩, ?_, rfl, rfl, hb⟩
  simp only [Kernel.emit, hb, Except.map]

theorem Cache.Sound.insert {cache : Cache} (h : cache.Sound) (hs : s.Validated)
    (hn : s.inputs ≠ []) {serial : Nat} {kind : KernelKind} {namePrefix : String}
    (hk : Kernel.emit serial s.canonical kind namePrefix = .ok k) :
    (cache.insert (Kernel.key s.canonical kind namePrefix) k).Sound := by
  intro e he
  rcases List.mem_append.mp he with he | he
  · exact h e he
  · rw [List.mem_singleton.mp he]
    exact ⟨serial, _, kind, namePrefix, hs.canonical, Subscripts.canonical_inputs_ne_nil hn,
      rfl, hk⟩

theorem Cache.Sound.isFor {cache : Cache} (h : cache.Sound) (hs : s.Validated)
    (hn : s.inputs ≠ [])
    (hk : cache.get? (Kernel.key s.canonical (s.kind c.specialCases) c.kernelPrefix) = some k) :
    k.IsFor c s := by
  obtain ⟨before, after, he, -⟩ := List.lookup_eq_some_iff.mp hk
  have hmem : (Kernel.key s.canonical (s.kind c.specialCases) c.kernelPrefix, k) ∈
      cache.entries := by
    rw [he]
    exact List.mem_append_right _ List.mem_cons_self
  obtain ⟨serial, pattern, kind, namePrefix, hp, hpn, hkey, hemit⟩ := h _ hmem
  obtain ⟨hkind, hname, hpattern⟩ := Kernel.key_inj s.canonical_delimited hp.delimited
    (Subscripts.canonical_inputs_ne_nil hn) hpn hkey
  subst hkind hpattern
  obtain ⟨b, hb⟩ := exists_kernelBody s.canonical c.specialCases
  rw [kind_canonical hs] at hb
  simp only [Kernel.emit, hb, Except.map, Except.ok.injEq] at hemit
  subst k
  exact ⟨rfl, hname.symm, hb⟩

/-- Kernels can be had from any pool, and from a sound one they are the right ones. -/
theorem pool_kernel (pool : Pool) (hs : s.Validated) (hn : s.inputs ≠ []) :
    ∃ k found pool', pool.kernel c (s.kind c.specialCases) s.canonical = .ok (k, found, pool') ∧
      (pool.Sound → k.IsFor c s ∧ pool'.Sound) := by
  obtain ⟨fresh, hemit, hfor⟩ := emit_isFor (c := c) hs pool.made
  rw [Pool.kernel]
  dsimp only
  split
  next cache hc _ =>
    rw [Cache.obtain]
    split
    next k hk =>
      refine ⟨k, true, _, rfl, fun hp => ⟨(hp cache hc).isFor hs hn hk, ?_⟩⟩
      intro cache' he
      rw [← Option.some.inj he]
      exact hp cache hc
    next =>
      rw [hemit]
      refine ⟨fresh, false, _, rfl, fun hp => ⟨hfor, ?_⟩⟩
      intro cache' he
      rw [← Option.some.inj he]
      exact (hp cache hc).insert hs hn hemit
  next =>
    rw [hemit]
    exact ⟨fresh, false, _, rfl, fun hp => ⟨hfor, hp⟩⟩

theorem pool_lower (pool : Pool) (hs : s.Validated) (hn : s.inputs ≠ [])
    (inputs : List NamedTensor) (result : NamedTensor) :
    ∃ op pool', pool.lower c s inputs result = .ok (op, pool') ∧ op.inputs = inputs ∧
      op.result = result ∧ op.labels = s.labels ∧
        (pool.Sound → op.kernel.IsFor c s ∧ pool'.Sound) := by
  obtain ⟨k, found, pool', hk, hp⟩ := pool_kernel (c := c) pool hs hn
  exact ⟨⟨_, k, inputs, result, s.labels, found⟩, pool', by rw [Pool.lower, hk]; rfl, rfl,
    rfl, rfl, hp⟩

theorem lowerSteps_performs {steps : List Step} (hs : ∀ s ∈ steps, s.subscripts.Validated)
    (pool : Pool) :
    ∃ ops pool', Pool.lowerSteps c pool steps = .ok (ops, pool') ∧
      (pool.Sound → List.Forall₂ (Operation.Performs c) steps ops ∧ pool'.Sound) := by
  induction steps generalizing pool with
  | nil => exact ⟨[], pool, rfl, fun hp => ⟨.nil, hp⟩⟩
  | cons s steps ih =>
    obtain ⟨op, pool₁, hop, hi, hr, hl, hk⟩ := pool_lower (c := c) pool
      (hs s List.mem_cons_self) (by simp [Step.subscripts]) s.reads s.result
    obtain ⟨ops, pool₂, hops, hall⟩ :=
      ih (fun u hu => hs u (List.mem_cons_of_mem s hu)) pool₁
    refine ⟨op :: ops, pool₂, ?_, fun hp => ?_⟩
    · have hop' : pool.lower c s.subscripts [s.left, s.right] s.result = .ok (op, pool₁) := hop
      rw [Pool.lowerSteps, hop']
      simp only [hops, Except.map]
    · obtain ⟨hfor, hp₁⟩ := hk hp
      obtain ⟨hrest, hp₂⟩ := hall hp₁
      exact ⟨.cons ⟨hfor, hi, hr, hl⟩ hrest, hp₂⟩

end

theorem find?_distinctBy {α κ : Type} [DecidableEq κ] (key : α → κ) (as : List α) (x : κ) :
    (distinctBy key as).find? (fun a => key a = x) = as.find? fun a => key a = x := by
  induction as with
  | nil => rfl
  | cons a as ih =>
    rw [distinctBy, List.find?_cons, List.find?_cons]
    by_cases h : key a = x
    · simp [h]
    · have hf : ((distinctBy key as).filter (key · ≠ key a)).find? (fun b => key b = x) =
          (distinctBy key as).find? fun b => key b = x := by
        rw [List.find?_filter]
        congr 1
        funext b
        by_cases hb : key b = x
        · simp [hb, Ne.symm h]
        · simp [hb]
      simp only [h, decide_false, hf, ih]

theorem exists_of_mem_right {α β : Type} {R : α → β → Prop} {as : List α} {bs : List β}
    (h : List.Forall₂ R as bs) {b : β} (hb : b ∈ bs) : ∃ a ∈ as, R a b := by
  induction h with
  | nil => exact absurd hb List.not_mem_nil
  | cons hr _ ih =>
    rcases List.mem_cons.mp hb with rfl | hb
    · exact ⟨_, List.mem_cons_self, hr⟩
    · obtain ⟨a, ha, hab⟩ := ih hb
      exact ⟨a, List.mem_cons_of_mem _ ha, hab⟩

structure Operation.Links (c : Config) (kernels : List Kernel) (s : Step) (op : Operation) :
    Prop where
  kernel : ∃ k, kernels.find? (·.name = op.kernel.name) = some k ∧ k.IsFor c s.subscripts
  inputs : op.inputs = s.reads
  result : op.result = s.result
  labels : op.labels = s.subscripts.labels

section

variable {c : Config} {steps : List Step} {ops : List Operation}

theorem find?_linkedKernels {s : Subscripts} (hs : s.Validated) {op : Operation} (hop : op ∈ ops)
    (hk : op.kernel.IsFor c s)
    (hall : ∀ op ∈ ops, ∃ u, Subscripts.Validated u ∧ op.kernel.IsFor c u) :
    ∃ k, (linkedKernels ops).find? (·.name = op.kernel.name) = some k ∧ k.IsFor c s := by
  rw [linkedKernels, find?_distinctBy]
  cases hf : (ops.map Operation.kernel).find? (fun k => k.name = op.kernel.name) with
  | none =>
    have hn := List.find?_eq_none.mp hf op.kernel (List.mem_map_of_mem hop)
    simp at hn
  | some k =>
    refine ⟨k, rfl, ?_⟩
    have hname : k.name = op.kernel.name := by simpa using List.find?_some hf
    obtain ⟨op', hop', rfl⟩ := List.mem_map.mp (List.mem_of_find?_eq_some hf)
    obtain ⟨u, hu, hku⟩ := hall op' hop'
    exact hku.of_name hs hu (hname.trans hk.name)

theorem links_of_performs (h : List.Forall₂ (Operation.Performs c) steps ops)
    (hs : ∀ s ∈ steps, s.subscripts.Validated) :
    List.Forall₂ (Operation.Links c (linkedKernels ops)) steps ops := by
  have hall : ∀ op ∈ ops, ∃ u, Subscripts.Validated u ∧ op.kernel.IsFor c u := by
    intro op hop
    obtain ⟨s, hm, hp⟩ := exists_of_mem_right h hop
    exact ⟨_, hs s hm, hp.kernel⟩
  refine List.forall₂_iff_zip.mpr ⟨h.length_eq, fun {s op} hz => ?_⟩
  obtain ⟨hm, hop⟩ := List.of_mem_zip hz
  have hp := (List.forall₂_iff_zip.mp h).2 hz
  exact ⟨find?_linkedKernels (hs s hm) hop hp.kernel hall, hp.inputs, hp.result, hp.labels⟩

end

end Einsum
