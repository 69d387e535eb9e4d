import Einsum.Proofs.Element
import Einsum.Proofs.Run
import Einsum.Proofs.Sizes

namespace Einsum

theorem axisSizes_mono {ps qs : List (Group × Shape)} (h : ps ⊆ qs) :
    axisSizes ps ⊆ axisSizes qs := by
  intro q hq
  obtain ⟨p, hp, hm⟩ := mem_axisSizes.mp hq
  exact mem_axisSizes.mpr ⟨p, h hp, hm⟩

/-- Some axes under labels of their own would make up an array that cannot be allocated. -/
def Huge (ps : List (Group × Shape)) : Prop :=
  ∃ axes : List (Label × Nat), (axes.map Prod.fst).Nodup ∧ axes ⊆ axisSizes ps ∧
    ¬ Fits .object (axes.map Prod.snd)

theorem Huge.mono {ps qs : List (Group × Shape)} (h : Huge ps)
    (hs : axisSizes ps ⊆ axisSizes qs) : Huge qs := by
  obtain ⟨axes, hn, ha, hf⟩ := h
  exact ⟨axes, hn, fun q hq => hs (ha hq), hf⟩

section

variable {α β : Type} (arith : Arithmetic α) (P : α → Prop)

inductive Fails (ps : List (Group × Shape)) : Error → Prop
  | refused {e : Error} (kind : e = .arrayTooBig ∨ e = .sizeTooLarge) (huge : Huge ps) :
      Fails ps e
  | element {e : Error} {x : α} (closed : P x) (fault : arith.fault? x = some e) : Fails ps e

/-- What can come of operands with given shapes: a value if they agree, a report on what disagrees,
or another failure. -/
inductive Checked (ps : List (Group × Shape)) (post : Assignment → β → Prop) :
    Except Error β → Prop
  | value {σ : Assignment} {b : β} (agree : ∀ p ∈ ps, p.2 = p.1.map σ) (holds : post σ b) :
      Checked ps post (.ok b)
  | mismatch {r : Report} (disagrees : r.Disagrees ps) : Checked ps post (.error (.report r))
  | failure {e : Error} (fails : Fails arith P ps e) : Checked ps post (.error e)

variable {arith P} {ps qs : List (Group × Shape)}

theorem Fails.mono {e : Error} (h : Fails arith P ps e) (hs : axisSizes ps ⊆ axisSizes qs) :
    Fails arith P qs e := by
  cases h with
  | refused kind huge => exact .refused kind (huge.mono hs)
  | element closed fault => exact .element closed fault

theorem Store.each_start (hc : arith.Closed P) {t : Tensor α} (ht : t.Each P) :
    (Store.start arith t).Each arith P :=
  ⟨hc.literalZero, hc.literalZero, ht, fun _ he => absurd he.symm (Option.some_ne_none _)⟩

variable {s : Subscripts} (hs : s.Validated)

include hs

theorem mem_axisSizes_output {shapes : List Shape} {σ : Assignment}
    (hsh : shapes = s.inputs.map fun g => g.map σ) {l : Label} (hl : l ∈ s.output) :
    (l, σ l) ∈ axisSizes (s.inputs.zip shapes) := by
  obtain ⟨g, hg, hlg⟩ := s.mem_axes.mp (hs.output_subset l hl)
  rw [hsh]
  exact mem_axisSizes.mpr ⟨(g, g.map σ), mem_zip_map hg, mem_zip_map hlg⟩

theorem huge_of_not_fits {shapes : List Shape} {σ : Assignment}
    (hsh : shapes = s.inputs.map fun g => g.map σ) {d : ElemType}
    (hf : ¬ Fits d (s.output.map σ)) : Huge (s.inputs.zip shapes) := by
  refine ⟨s.output.map fun l => (l, σ l), ?_, ?_, fun h => hf ?_⟩
  · rw [List.map_map]
    exact (List.map_id s.output).symm ▸ hs.output_nodup
  · intro q hq
    obtain ⟨l, hl, rfl⟩ := List.mem_map.mp hq
    exact mem_axisSizes_output hs hsh hl
  · rw [List.map_map] at h
    exact lt_of_le_of_lt (Nat.mul_le_mul_right _ (byteCount_pos d).2) h

theorem perform_of_report (special : Bool) {ts : List (Tensor α)}
    (hl : ts.length = s.inputs.length) {r : Report}
    (hr : s.labelSizes ((ts.map Tensor.shape).map givenShape) = .error (.report r)) :
    s.perform arith special ts = .error (.report r) := by
  obtain ⟨b, hb⟩ := exists_kernelBody s.canonical special
  rw [kind_canonical hs] at hb
  have hcount (serial : Nat) (name : String) (kind : KernelKind) :
      (Kernel.mk serial name kind s.canonical b).checkCount ts.length = .ok () :=
    if_pos (hl.trans (List.length_map _).symm)
  have hlen : (ts.map Tensor.shape).length = s.inputs.length := by rw [List.length_map, hl]
  rcases runChecks_canonical hs hlen with ⟨known, hok, -⟩ | ⟨r', he, hrun⟩
  · cases hr.symm.trans hok
  · cases hr.symm.trans he
    simp only [Subscripts.perform, Kernel.emit, hb, Except.map, ok_bind, Kernel.call, hcount, hrun]
    rfl

theorem perform_checked (special : Bool) (hc : arith.Closed P) {ts : List (Tensor α)}
    (hl : ts.length = s.inputs.length) (ht : ∀ t ∈ ts, t.Each P) :
    Checked arith P (s.inputs.zip (ts.map Tensor.shape))
      (fun σ t => t.shape = s.output.map σ ∧ t.Each P) (s.perform arith special ts) := by
  have hlen : (ts.map Tensor.shape).length = s.inputs.length := by rw [List.length_map, hl]
  rcases labelSizes_cases hlen with ⟨-, -, σ, hσ⟩ | ⟨r, hr, hd⟩
  · have hsh := eq_map_of_zip hlen fun q hq => (hσ q hq).symm
    obtain ⟨b, hb⟩ := exists_kernelBody s.canonical special
    by_cases hf : Fits (.common (ts.map Tensor.type)) (s.output.map σ)
    · rw [perform_of_fits arith hs hsh hb hf]
      have hblank := Tensor.each_fill (.common (ts.map Tensor.type)) (s.output.map σ)
        (hc.zero (.common (ts.map Tensor.type)))
      have hrun :=
        b.run_closed hc ht (σ ∘ writtenLabel s.labels) .start (Store.each_start hc hblank)
      have hshape := (b.run_alike arith ts (σ ∘ writtenLabel s.labels) .start
        (.start arith (arith.blank (.common (ts.map Tensor.type)) (s.output.map σ)))).shape
      rw [Block.fill, Store.outcome]
      split
      next e he =>
        obtain ⟨x, hx, hf⟩ := hrun.failure e he
        exact .failure (.element hx hf)
      next => exact .value hσ ⟨hshape, hrun.result⟩
    · obtain ⟨e, hk, he⟩ := perform_of_not_fits arith hs hsh hf
      rw [he]
      exact .failure (.refused hk (huge_of_not_fits hs hsh hf))
  · rw [perform_of_report hs special hl hr]
    exact .mismatch hd

end

section

variable {α : Type} {arith : Arithmetic α} {P : α → Prop} {ps qs : List (Group × Shape)}

theorem Report.Disagrees.mono {r : Report} (h : r.Disagrees ps)
    (hrank : ∀ p ∈ ps, p.2.length ≠ p.1.length → p ∈ qs)
    (hs : axisSizes ps ⊆ axisSizes qs) : r.Disagrees qs := by
  cases h with
  | rank mem ne => exact .rank (hrank _ mem ne) ne
  | size expected actual ne => exact .size (hs expected) (hs actual) ne

section

variable {β γ : Type} {post : Assignment → β → Prop} {r : Except Error β}

theorem Checked.imp {post' : Assignment → β → Prop} (h : Checked arith P ps post r)
    (hrank : ∀ p ∈ ps, p.2.length ≠ p.1.length → p ∈ qs)
    (hs : axisSizes ps ⊆ axisSizes qs)
    (hv : ∀ σ b, (∀ p ∈ ps, p.2 = p.1.map σ) → post σ b →
      ∃ τ : Assignment, (∀ p ∈ qs, p.2 = p.1.map τ) ∧ post' τ b) :
    Checked arith P qs post' r := by
  cases h with
  | value agree holds =>
    obtain ⟨τ, hτ, hpost⟩ := hv _ _ agree holds
    exact .value hτ hpost
  | mismatch disagrees => exact .mismatch (disagrees.mono hrank hs)
  | failure fails => exact .failure (fails.mono hs)

theorem Checked.bind {f : β → Except Error γ} {post' : Assignment → γ → Prop}
    (h : Checked arith P ps post r) (hsub : ps ⊆ qs)
    (hf : ∀ σ b, (∀ p ∈ ps, p.2 = p.1.map σ) → post σ b →
      Checked arith P qs post' (f b)) :
    Checked arith P qs post' (r >>= f) := by
  cases h with
  | value agree holds => exact hf _ _ agree holds
  | mismatch disagrees =>
    exact .mismatch (disagrees.mono (fun p hm _ => hsub hm) (axisSizes_mono hsub))
  | failure fails => exact .failure (fails.mono (axisSizes_mono hsub))

end

def pairsOf (φ : NamedTensor → Tensor α) (live : List NamedTensor) : List (Group × Shape) :=
  live.map fun t => (t.labels, (φ t).shape)

theorem mem_pairsOf {φ : NamedTensor → Tensor α} {live : List NamedTensor} {t : NamedTensor}
    (h : t ∈ live) :
    (t.labels, (φ t).shape) ∈ pairsOf φ live := List.mem_map_of_mem h

section

variable {output : Group} {n : Nat} {live rest : List NamedTensor} {left right : NamedTensor}
  {φ : NamedTensor → Tensor α} {t : Tensor α} {σ : Assignment}
  (hp : live.Perm (left :: right :: rest)) (hc : Covers output (left :: right :: rest))
  (hσ : ∀ p ∈ pairsOf φ [left, right], p.2 = p.1.map σ)
  (ht : t.shape = (stepOf output n left right rest).result.labels.map σ)

def pairsAfter (output : Group) (n : Nat) (left right : NamedTensor) (rest : List NamedTensor)
    (φ : NamedTensor → Tensor α) (t : Tensor α) : List (Group × Shape) :=
  ((stepOf output n left right rest).result.labels, t.shape) :: pairsOf φ rest

include hp hc hσ ht

theorem axisSizes_after :
    axisSizes (pairsAfter output n left right rest φ t) ⊆ axisSizes (pairsOf φ live) := by
  intro q hq
  obtain ⟨p, hm, hz⟩ := mem_axisSizes.mp hq
  rcases List.mem_cons.mp hm with rfl | hm
  · rw [ht] at hz
    have hq : q = (q.1, σ q.1) := Prod.ext rfl (eq_of_mem_zip_map hz).symm
    have hside : ∀ u ∈ [left, right], q.1 ∈ u.labels →
        q ∈ axisSizes (pairsOf φ live) := by
      intro u hu hl
      have hlive : u ∈ live := hp.mem_iff.mpr (List.mem_append_left rest hu)
      refine mem_axisSizes.mpr ⟨_, mem_pairsOf hlive, ?_⟩
      rw [hσ _ (mem_pairsOf hu), hq]
      exact mem_zip_map hl
    rcases ((mem_stepOf_result hc).mp (List.of_mem_zip hz).1).1 with hl | hl
    · exact hside left (by simp) hl
    · exact hside right (by simp) hl
  · obtain ⟨u, hu, rfl⟩ := List.mem_map.mp hm
    have hlive : u ∈ live := hp.mem_iff.mpr (List.mem_cons_of_mem _ (List.mem_cons_of_mem _ hu))
    exact mem_axisSizes.mpr ⟨_, mem_pairsOf hlive, hz⟩

/-- Sizes on which a result agrees with the tensors left agree with those it was made of. -/
theorem exists_agree_before {τ : Assignment}
    (hτ : ∀ p ∈ pairsAfter output n left right rest φ t, p.2 = p.1.map τ) :
    ∃ ρ : Assignment, (∀ p ∈ pairsOf φ live, p.2 = p.1.map ρ) ∧
      ∀ l ∈ output, ρ l = τ l := by
  have hres : ∀ l ∈ (stepOf output n left right rest).result.labels, σ l = τ l :=
    List.map_inj_left.mp (ht.symm.trans (hτ _ List.mem_cons_self))
  let ρ : Assignment := fun l => if l ∈ left.labels ∨ l ∈ right.labels then σ l else τ l
  have hρ (l : Label) (h : l ∈ output ∨ l ∈ axesOf rest) : ρ l = τ l := by
    by_cases hl : l ∈ left.labels ∨ l ∈ right.labels
    · exact (if_pos hl).trans (hres l ((mem_stepOf_result hc).mpr ⟨hl, h⟩))
    · exact if_neg hl
  refine ⟨ρ, fun p hm => ?_, fun l hl => hρ l (.inl hl)⟩
  obtain ⟨u, hu, rfl⟩ := List.mem_map.mp hm
  have hmem : u ∈ [left, right] ++ rest := hp.mem_iff.mp hu
  rcases List.mem_append.mp hmem with hu | hu
  · have hul : ∀ l ∈ u.labels, l ∈ left.labels ∨ l ∈ right.labels := by
      intro l hl
      rcases List.mem_pair.mp hu with rfl | rfl
      · exact .inl hl
      · exact .inr hl
    rw [hσ _ (mem_pairsOf hu)]
    exact List.map_congr_left fun l hl => (if_pos (hul l hl)).symm
  · rw [hτ _ (List.mem_cons_of_mem _ (mem_pairsOf hu))]
    exact List.map_congr_left fun l hl => (hρ l (.inr (mem_axesOf.mpr ⟨u, hu, hl⟩))).symm

end

theorem pairsOf_update {output : Group} {n : Nat} {rest : List NamedTensor}
    {left right : NamedTensor} (hr : (stepOf output n left right rest).result ∉ rest)
    (φ : NamedTensor → Tensor α) (t : Tensor α) :
    pairsOf (Function.update φ (stepOf output n left right rest).result t)
      ((stepOf output n left right rest).result :: rest) =
        pairsAfter output n left right rest φ t := by
  rw [pairsOf, List.map_cons, Function.update_self, pairsAfter, pairsOf]
  congr 1
  apply List.map_congr_left
  intro u hu
  rw [Function.update_of_ne fun he : u = (stepOf output n left right rest).result => hr (he ▸ hu)]

theorem runSteps_checked (special : Bool) (hclosed : arith.Closed P) {output : Group} {n : Nat}
    {live : List NamedTensor} {steps : List Step} (h : Contracts output n live steps)
    (hf : Fresh n live) (hc : Covers output live) (hv : ∀ s ∈ steps, s.subscripts.Validated)
    {φ : NamedTensor → Tensor α} (hφ : ∀ t ∈ live, (φ t).Each P)
    (hdone : steps = [] → ∃ σ : Assignment, ∀ p ∈ pairsOf φ live, p.2 = p.1.map σ) :
    Checked arith P (pairsOf φ live) (fun σ ψ => (ψ (finalTensor output)).shape = output.map σ)
      (runSteps arith special φ steps) := by
  induction h generalizing φ with
  | done =>
    obtain ⟨σ, hσ⟩ := hdone rfl
    exact .value hσ (hσ _ (mem_pairsOf (List.mem_singleton_self _)))
  | @step n live rest left right steps live_perm tail ih =>
    have hf' := hf.perm live_perm
    have hc' := hc.perm live_perm
    have hφ' : ∀ t ∈ [left, right] ++ rest, (φ t).Each P :=
      fun t ht => hφ t (live_perm.mem_iff.mpr ht)
    have hpair : pairsOf φ [left, right] ⊆ pairsOf φ live := by
      intro p hm
      obtain ⟨u, hu, rfl⟩ := List.mem_map.mp hm
      exact mem_pairsOf (live_perm.mem_iff.mpr (List.mem_append_left rest hu))
    have hstep : Checked arith P (pairsOf φ [left, right])
        (fun σ t => t.shape = (stepOf output n left right rest).result.labels.map σ ∧ t.Each P)
        ((stepOf output n left right rest).subscripts.perform arith special
          [φ left, φ right]) := by
      have hlen : [φ left, φ right].length =
          (stepOf output n left right rest).subscripts.inputs.length := rfl
      refine perform_checked (hv _ List.mem_cons_self) special hclosed hlen ?_
      rw [List.forall_mem_cons, List.forall_mem_singleton]
      exact ⟨hφ' left (by simp), hφ' right (by simp)⟩
    refine hstep.bind hpair fun σ t agree holds => ?_
    obtain ⟨hshape, heach⟩ := holds
    have hnew :=
      forall_update (hf'.notMem_rest output) heach fun u hu => hφ' u (List.mem_append_right _ hu)
    -- After the last step nothing else is live, so the sizes of its operands are those of the
    -- result.
    have hlast : steps = [] →
        ∃ σ : Assignment, ∀ p ∈ pairsAfter output n left right rest φ t, p.2 =
          p.1.map σ := by
      rintro rfl
      have hnil : rest = [] := (List.cons.inj tail.live_of_nil).2
      refine ⟨σ, ?_⟩
      rw [pairsAfter, List.forall_mem_cons]
      refine ⟨hshape, fun p hm => ?_⟩
      rw [hnil] at hm
      exact absurd hm List.not_mem_nil
    have hafter := pairsOf_update (hf'.notMem_rest output) φ t
    have hi := ih hf'.step hc'.step (fun s hs => hv s (List.mem_cons_of_mem _ hs)) hnew
      (hafter ▸ hlast)
    rw [hafter] at hi
    refine hi.imp (fun p hm hne => ?_) (axisSizes_after live_perm hc' agree hshape)
      fun τ ψ hτ hψ => ?_
    · rcases List.mem_cons.mp hm with rfl | hm
      · exact absurd (by rw [hshape, List.length_map]) hne
      · obtain ⟨u, hu, rfl⟩ := List.mem_map.mp hm
        exact mem_pairsOf (live_perm.mem_iff.mpr (List.mem_append_right [left, right] hu))
    · obtain ⟨ρ, hρ, hout⟩ := exists_agree_before live_perm hc' agree hshape hτ
      exact ⟨ρ, hρ, hψ.trans (List.map_congr_left fun l hl => (hout l hl).symm)⟩

end

section

variable {α : Type} {arith : Arithmetic α} {P : α → Prop}

theorem pairsOf_operands {s : Subscripts} {ts : List (Tensor α)}
    (hl : s.inputs.length = ts.length) :
    pairsOf (operandAt arith s ts) s.operandTensors = s.inputs.zip (ts.map Tensor.shape) := by
  have hshapes : s.operandTensors.map (Tensor.shape ∘ operandAt arith s ts) =
      ts.map Tensor.shape := by
    rw [← List.map_map, map_operandAt arith hl]
  rw [← hshapes, ← labels_operandTensors s]
  exact List.zip_map'.symm

/-- A path sees each disagreement of the operands, unless it fails before. -/
theorem Path.value_checked (special : Bool) (hclosed : arith.Closed P) {p : Path}
    (hs : p.subscripts.Validated) (hr : p.Reaches) {ts : List (Tensor α)}
    (hl : p.subscripts.inputs.length = ts.length) (ht : ∀ t ∈ ts, t.Each P) :
    Checked arith P (p.subscripts.inputs.zip (ts.map Tensor.shape))
      (fun σ t => t.shape = p.subscripts.output.map σ) (p.value arith special ts) := by
  rcases hr with ⟨hn, -⟩ | ⟨hn, hcon⟩
  · rw [Path.value_of_nil arith special ts hn]
    exact (perform_checked hs special hclosed hl.symm ht).imp (fun p hm _ => hm)
      (List.Subset.refl _) fun σ t agree holds => ⟨σ, agree, holds.1⟩
  · have h := runSteps_checked special hclosed hcon (fresh_operandTensors p.subscripts 1)
      (covers_operandTensors hs) (validated_steps hs hcon) (forall_operandAt arith hl ht)
        fun he => absurd he hn
    rw [pairsOf_operands hl] at h
    rw [Path.value_of_ne arith special ts hn]
    exact h.bind (List.Subset.refl _) fun σ φ agree holds => .value agree holds

end

end Einsum
