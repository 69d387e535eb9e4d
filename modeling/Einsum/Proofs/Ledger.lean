import Einsum.Proofs.Session

namespace Einsum

namespace Operation

def isCached (c : Config) (op : Operation) : Bool := op.kind.isReusable && c.cacheKernels

def SamePattern (op op' : Operation) : Prop :=
  op.kind = op'.kind ∧ op.subscripts.canonical = op'.subscripts.canonical

def key (c : Config) (op : Operation) : String :=
  Kernel.key op.subscripts.canonical op.kind c.kernelPrefix

structure WellFormed (op : Operation) : Prop where
  validated : op.subscripts.Validated
  inputs : op.subscripts.inputs ≠ []

theorem key_eq_iff {c : Config} {op op' : Operation} (h : op.WellFormed) (h' : op'.WellFormed) :
    op.key c = op'.key c ↔ op.SamePattern op' := by
  constructor
  · intro hk
    obtain ⟨hkind, -, hpattern⟩ := Kernel.key_inj
      h.validated.canonical.delimited h'.validated.canonical.delimited
      (Subscripts.canonical_inputs_ne_nil h.inputs)
      (Subscripts.canonical_inputs_ne_nil h'.inputs) hk
    exact ⟨hkind, hpattern⟩
  · rintro ⟨hkind, hpattern⟩
    rw [key, key, hkind, hpattern]

end Operation

theorem serial_of_emit {serial : Nat} {pattern : Subscripts} {kind : KernelKind} {word : String}
    {k : Kernel} (h : Kernel.emit serial pattern kind word = .ok k) : k.serial = serial := by
  rw [Kernel.emit] at h
  cases hb : kernelBody pattern kind with
  | error e =>
    rw [hb] at h
    cases h
  | ok body =>
    rw [hb] at h
    cases h
    rfl

def Marked (c : Config) (ops : List Operation) : Prop :=
  ∀ before op after, ops = before ++ op :: after →
    (op.reused = true ↔ op.isCached c = true ∧ ∃ op' ∈ before, op'.SamePattern op)

theorem Marked.append {c : Config} {ops : List Operation} (h : Marked c ops) {op : Operation}
    (hop : op.reused = true ↔ op.isCached c = true ∧ ∃ op' ∈ ops, op'.SamePattern op) :
    Marked c (ops ++ [op]) := by
  intro before op' after he
  -- The list is split at its new member or before it.
  rcases List.eq_nil_or_concat after with rfl | ⟨after, last, rfl⟩
  · obtain ⟨rfl, hl⟩ := List.append_inj' he rfl
    cases hl
    exact hop
  · rw [List.concat_eq_append, ← List.cons_append, ← List.append_assoc] at he
    exact h before op' after (List.append_inj' he rfl).1

/-- What the cache of a session tells of the operations that were lowered with it. -/
structure Ledger (c : Config) (ops : List Operation) (cache : Cache) (made : Nat) : Prop where
  wellFormed : ∀ op ∈ ops, op.WellFormed
  entries : cache.entries.length = cache.misses
  requests : cache.hits + cache.misses = ops.countP (Operation.isCached c)
  serials : (cache.entries.map fun e => e.2.serial).Nodup
  below : ∀ e ∈ cache.entries, e.2.serial < made
  kept : ∀ op ∈ ops, op.isCached c = true → cache.get? (op.key c) = some op.kernel
  known : ∀ e ∈ cache.entries, ∃ op ∈ ops, op.isCached c = true ∧ e.1 = op.key c
  marked : Marked c ops

namespace Ledger

variable {c : Config} {ops : List Operation} {cache : Cache} {made : Nat}

theorem empty (c : Config) (made : Nat) : Ledger c [] {} made where
  wellFormed _ hop := absurd hop List.not_mem_nil
  entries := rfl
  requests := rfl
  serials := List.nodup_nil
  below _ he := absurd he List.not_mem_nil
  kept _ hop := absurd hop List.not_mem_nil
  known _ he := absurd he List.not_mem_nil
  marked before op after he := absurd he (by simp)

theorem mono (h : Ledger c ops cache made) {made' : Nat} (hm : made ≤ made') :
    Ledger c ops cache made' :=
  { h with below := fun e he => (h.below e he).trans_le hm }

theorem mem_entries (h : Ledger c ops cache made) {op : Operation} (hop : op ∈ ops)
    (hc : op.isCached c = true) :
    (op.key c, op.kernel) ∈ cache.entries := by
  obtain ⟨before, after, he, -⟩ := List.lookup_eq_some_iff.mp (h.kept op hop hc)
  rw [he]
  exact List.mem_append_right before List.mem_cons_self

/-- Operations have one kernel if they have one pattern. -/
theorem serial_eq_iff (h : Ledger c ops cache made) {op op' : Operation} (hop : op ∈ ops)
    (hop' : op' ∈ ops) (hc : op.isCached c = true) (hc' : op'.isCached c = true) :
    (op.kernel.serial = op'.kernel.serial ↔ op.SamePattern op') ∧
      (op.SamePattern op' → op.kernel = op'.kernel) := by
  have hkey := Operation.key_eq_iff (c := c) (h.wellFormed op hop) (h.wellFormed op' hop')
  have hkernel : op.SamePattern op' → op.kernel = op'.kernel := by
    intro hs
    have hk := h.kept op hop hc
    rw [hkey.mpr hs, h.kept op' hop' hc'] at hk
    exact (Option.some.inj hk).symm
  refine ⟨⟨fun hserial => ?_, fun hs => congrArg Kernel.serial (hkernel hs)⟩, hkernel⟩
  -- Both kernels are kept, and no two that are kept have one serial number.
  have he :=
    List.inj_on_of_nodup_map h.serials (h.mem_entries hop hc) (h.mem_entries hop' hc') hserial
  exact hkey.mp (congrArg Prod.fst he)

section

variable (h : Ledger c ops cache made) {op : Operation} (hw : op.WellFormed)

include h hw

theorem wellFormed_append : ∀ o ∈ ops ++ [op], o.WellFormed := by
  rw [List.forall_mem_append, List.forall_mem_singleton]
  exact ⟨h.wellFormed, hw⟩

omit hw in
theorem known_append (op : Operation) :
    ∀ e ∈ cache.entries, ∃ o ∈ ops ++ [op], o.isCached c = true ∧ e.1 = o.key c := by
  intro e he
  obtain ⟨o, ho, hk⟩ := h.known e he
  exact ⟨o, List.mem_append_left _ ho, hk⟩

theorem isSome_get?_iff (hc : op.isCached c = true) :
    (cache.get? (op.key c)).isSome = true ↔ ∃ op' ∈ ops, op'.SamePattern op := by
  constructor
  · intro hs
    obtain ⟨k, hk⟩ := Option.isSome_iff_exists.mp hs
    obtain ⟨before, after, he, -⟩ := List.lookup_eq_some_iff.mp hk
    obtain ⟨op', hop', -, hkey⟩ := h.known (op.key c, k) (by rw [he]; simp)
    exact ⟨op', hop', (Operation.key_eq_iff (h.wellFormed op' hop') hw).mp hkey.symm⟩
  · rintro ⟨op', hop', hs⟩
    have hc' : op'.isCached c = true := by rwa [Operation.isCached, hs.1]
    rw [← (Operation.key_eq_iff (h.wellFormed op' hop') hw).mpr hs, h.kept op' hop' hc']
    rfl

theorem pass (hc : op.isCached c = false) (hr : op.reused = false) :
    Ledger c (ops ++ [op]) cache (made + 1) where
  wellFormed := h.wellFormed_append hw
  entries := h.entries
  requests := by rw [List.countP_append, List.countP_singleton, hc, h.requests]; rfl
  serials := h.serials
  below e he := Nat.lt_succ_of_lt (h.below e he)
  kept := by
    rw [List.forall_mem_append, List.forall_mem_singleton, hc]
    exact ⟨h.kept, fun hf => absurd hf Bool.false_ne_true⟩
  known := h.known_append op
  marked := h.marked.append (by simp [hc, hr])

theorem hit (hc : op.isCached c = true) (hk : cache.get? (op.key c) = some op.kernel)
    (hr : op.reused = true) :
    Ledger c (ops ++ [op]) cache.hit (made + 1) where
  wellFormed := h.wellFormed_append hw
  entries := h.entries
  requests := by
    have := h.requests
    rw [List.countP_append, List.countP_singleton, hc, ← this, Cache.hit]
    simp only [if_true]
    omega
  serials := h.serials
  below e he := Nat.lt_succ_of_lt (h.below e he)
  kept := by
    rw [List.forall_mem_append, List.forall_mem_singleton]
    exact ⟨h.kept, fun _ => hk⟩
  known := h.known_append op
  marked := by
    refine h.marked.append (iff_of_true hr ⟨hc, (h.isSome_get?_iff hw hc).mp ?_⟩)
    rw [hk]
    rfl

theorem miss (hc : op.isCached c = true) (hk : cache.get? (op.key c) = none)
    (hm : op.kernel.serial = made) (hr : op.reused = false) :
    Ledger c (ops ++ [op]) (cache.insert (op.key c) op.kernel) (made + 1) where
  wellFormed := h.wellFormed_append hw
  entries := by rw [Cache.insert, List.length_append, h.entries, List.length_singleton]
  requests := by
    have := h.requests
    rw [List.countP_append, List.countP_singleton, hc, ← this, Cache.insert]
    simp only [if_true]
    omega
  serials := by
    rw [Cache.insert, List.map_append, List.map_singleton, hm]
    refine List.Nodup.append h.serials (List.nodup_singleton _) ?_
    intro n hn hn'
    obtain ⟨e, he, rfl⟩ := List.mem_map.mp hn
    exact absurd (List.mem_singleton.mp hn') (h.below e he).ne
  below := by
    rw [Cache.insert, List.forall_mem_append, List.forall_mem_singleton]
    exact ⟨fun e he => Nat.lt_succ_of_lt (h.below e he), hm ▸ Nat.lt_succ_self _⟩
  kept := by
    rw [List.forall_mem_append, List.forall_mem_singleton]
    refine ⟨fun op' hop' hc' => ?_, fun _ => ?_⟩
    · have hl : cache.entries.lookup (op'.key c) = some op'.kernel := h.kept op' hop' hc'
      rw [Cache.get?, Cache.insert, List.lookup_append, hl, Option.some_or]
    · have hl : cache.entries.lookup (op.key c) = none := hk
      rw [Cache.get?, Cache.insert, List.lookup_append, hl, Option.none_or, List.lookup_cons_self]
  known := by
    rw [Cache.insert, List.forall_mem_append, List.forall_mem_singleton]
    exact ⟨h.known_append op, op, List.mem_append_right _ List.mem_cons_self, hc, rfl⟩
  marked := by
    refine h.marked.append (iff_of_false (by simp [hr]) fun hs => ?_)
    have hsome := (h.isSome_get?_iff hw hc).mpr hs.2
    rw [hk] at hsome
    cases hsome

end

section

variable (h : Ledger c ops cache made)

include h

theorem lower {s : Subscripts} (hs : s.Validated) (hn : s.inputs ≠ []) (inputs : List NamedTensor)
    (result : NamedTensor)
    (hsub : Subscripts.mk (inputs.map NamedTensor.labels) result.labels = s) :
    ∃ op cache', (Pool.mk (some cache) made).lower c s inputs result =
      .ok (op, ⟨some cache', made + 1⟩) ∧ Ledger c (ops ++ [op]) cache' (made + 1) := by
  subst hsub
  let s := Subscripts.mk (inputs.map NamedTensor.labels) result.labels
  obtain ⟨fresh, hemit, -⟩ := emit_isFor (c := c) hs made
  let op (k : Kernel) (reused : Bool) : Operation :=
    ⟨s.kind c.specialCases, k, inputs, result, s.labels, reused⟩
  have hw (k : Kernel) (reused : Bool) : (op k reused).WellFormed := ⟨hs, hn⟩
  rw [Pool.lower, Pool.kernel]
  dsimp only
  rw [hemit]
  cases hc : (s.kind c.specialCases).isReusable && c.cacheKernels with
  | false => exact ⟨op fresh false, cache, rfl, h.pass (hw _ _) hc rfl⟩
  | true =>
    dsimp only
    rw [Cache.obtain]
    cases hk : cache.get? (Kernel.key s.canonical (s.kind c.specialCases) c.kernelPrefix) with
    | some k => exact ⟨op k true, cache.hit, rfl, h.hit (hw _ _) hc hk rfl⟩
    | none => exact ⟨op fresh false, _, rfl, h.miss (hw _ _) hc hk (serial_of_emit hemit) rfl⟩

theorem lowerSteps {steps : List Step} (hs : ∀ s ∈ steps, s.subscripts.Validated) :
    ∃ new cache' made', Pool.lowerSteps c ⟨some cache, made⟩ steps =
      .ok (new, ⟨some cache', made'⟩) ∧ Ledger c (ops ++ new) cache' made' := by
  induction steps generalizing ops cache made with
  | nil => exact ⟨[], cache, made, rfl, (List.append_nil ops).symm ▸ h⟩
  | cons s steps ih =>
    rw [List.forall_mem_cons] at hs
    obtain ⟨op, cache₁, hop, h₁⟩ := h.lower hs.1 (List.cons_ne_nil _ _) s.reads s.result rfl
    obtain ⟨new, cache₂, made₂, hnew, h₂⟩ := ih h₁ hs.2
    refine ⟨op :: new, cache₂, made₂, ?_, by rwa [List.append_assoc] at h₂⟩
    have hop' : (Pool.mk (some cache) made).lower c s.subscripts [s.left, s.right] s.result =
        .ok (op, ⟨some cache₁, made + 1⟩) := hop
    rw [Pool.lowerSteps, hop']
    dsimp only
    rw [hnew]
    rfl

theorem lowerPath {p : Path} (hs : p.subscripts.Validated) (hr : p.Reaches) :
    ∃ new cache' made', (Pool.mk (some cache) made).lowerPath c p =
      .ok (new, ⟨some cache', made'⟩) ∧ Ledger c (ops ++ new) cache' made' := by
  rcases hr with ⟨hn, hl⟩ | ⟨hn, hc⟩
  · obtain ⟨g, hg⟩ := List.length_eq_one_iff.mp hl
    have ht : p.subscripts.operandTensors = [operandTensor 0 g] := by
      simp [Subscripts.operandTensors, hg]
    have hsub : Subscripts.mk ([operandTensor 0 g].map NamedTensor.labels) p.subscripts.output =
        p.subscripts := by
      rw [← ht, labels_operandTensors]
    obtain ⟨op, cache', hop, h'⟩ :=
      h.lower hs (by simp [hg]) [operandTensor 0 g] (finalTensor p.subscripts.output) hsub
    refine ⟨[op], cache', made + 1, ?_, h'⟩
    have hop' : (Pool.mk (some cache) made).lower c p.subscripts [operandTensor 0 g]
        ⟨finalName, p.subscripts.output, none⟩ = .ok (op, ⟨some cache', made + 1⟩) := hop
    simp only [Pool.lowerPath, hn, List.isEmpty_nil, if_true, Pool.lowerSingle, ht,
      hop', Except.map]
  · obtain ⟨new, cache', made', hnew, h'⟩ := h.lowerSteps (validated_steps hs hc)
    refine ⟨new, cache', made', ?_, h'⟩
    have he : p.steps.isEmpty = false := by simpa using hn
    simp only [Pool.lowerPath, he, check_of_contracts hs hc, hnew]
    rfl

/-- What was read and checked is built, and all its operations are accounted for. -/
theorem build {text : String} {n : Int} {e : Expression} (hp : parse text = .ok e)
    (hc : e.check n = .ok ()) :
    ∃ p cache' made', (Pool.mk (some cache) made).build c text n =
      .ok (p, ⟨some cache', made'⟩) ∧ Ledger c (ops ++ p.operations) cache' made' := by
  have hv := validated_of_parse hp hc
  obtain ⟨path, hplan, hsub, hreach⟩ := Path.plan_reaches hv (inputs_of_parse hp).1 c
  obtain ⟨new, cache', made', hlower, h'⟩ := h.lowerPath (hsub ▸ hv) hreach
  refine ⟨⟨made', path, new⟩, cache', made' + 1, ?_, h'.mono (Nat.le_succ _)⟩
  simp only [Pool.build, hp, Except.mapError, ok_bind, hc, hplan, hlower]
  rfl

end

end Ledger

end Einsum
