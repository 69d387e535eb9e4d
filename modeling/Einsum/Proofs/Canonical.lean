import Einsum.Proofs.Call

namespace Einsum

namespace Subscripts

variable {s : Subscripts}

theorem Validated.length_labels (hs : s.Validated) : s.labels.length ≤ 26 := by
  apply length_le_of_letters s.nodup_labels
  intro l hl
  rcases s.mem_labels.mp hl with ha | ho
  · exact hs.letters l ha
  · exact hs.letters l (hs.output_subset l ho)

theorem Validated.lettered (hs : s.Validated) : s.Lettered := by
  have hl := hs.length_labels
  rw [Lettered]
  omega

theorem toNat_canonicalLabel (hs : s.Lettered) {l : Label} (hl : l ∈ s.labels) :
    (s.canonicalLabel l).toNat = 97 + s.labels.idxOf l :=
  toNat_letter ((Nat.add_lt_add_left (List.idxOf_lt_length_of_mem hl) 97).trans_le hs)

theorem getElem?_canonicalLabel (hs : s.Lettered) {l : Label} (hl : l ∈ s.labels) :
    'a' ≤ s.canonicalLabel l ∧ s.labels[(s.canonicalLabel l).toNat - 'a'.toNat]? = some l := by
  have hn := toNat_canonicalLabel hs hl
  constructor
  · change 97 ≤ (s.canonicalLabel l).toNat
    omega
  · have hi : (s.canonicalLabel l).toNat - 'a'.toNat = s.labels.idxOf l := by
      change (s.canonicalLabel l).toNat - 97 = _
      omega
    rw [hi, List.getElem?_eq_getElem (List.idxOf_lt_length_of_mem hl), List.getElem_idxOf]

theorem writtenLabel_canonicalLabel (hs : s.Lettered) {l : Label} (hl : l ∈ s.labels) :
    writtenLabel s.labels (s.canonicalLabel l) = l := by
  obtain ⟨ha, hi⟩ := getElem?_canonicalLabel hs hl
  rw [writtenLabel, if_pos ha, List.getD_eq_getElem?_getD, hi, Option.getD_some]

theorem canonicalLabel_injOn (hs : s.Lettered) :
    Set.InjOn s.canonicalLabel {l | l ∈ s.labels} := by
  intro l hl m hm h
  rw [← writtenLabel_canonicalLabel hs hl, h, writtenLabel_canonicalLabel hs hm]

theorem map_output_canonical (hs : s.Validated) (a : Assignment) :
    s.canonical.output.map (a ∘ writtenLabel s.labels) = s.output.map a := by
  rw [Subscripts.canonical, relabel, List.map_map]
  exact List.map_congr_left fun l hl =>
    congrArg a (writtenLabel_canonicalLabel hs.lettered (s.mem_labels.mpr (.inr hl)))

theorem Validated.canonical (hs : s.Validated) : s.canonical.Validated where
  letters := by
    intro m hm
    rw [Subscripts.canonical, axes_relabel] at hm
    obtain ⟨l, hl, rfl⟩ := List.mem_map.mp hm
    have hl' := s.mem_labels.mpr (.inl hl)
    have hi := (List.idxOf_lt_length_of_mem hl').trans_le hs.length_labels
    have hn := toNat_canonicalLabel hs.lettered hl'
    exact isLabel_iff.mpr (by omega)
  output_nodup := hs.output_nodup.map_on fun l hl m hm h =>
    canonicalLabel_injOn hs.lettered (s.mem_labels.mpr (.inr hl)) (s.mem_labels.mpr (.inr hm)) h
  output_subset := by
    intro m hm
    obtain ⟨l, hl, rfl⟩ := List.mem_map.mp hm
    rw [Subscripts.canonical, axes_relabel]
    exact List.mem_map_of_mem (hs.output_subset l hl)

end Subscripts

section

variable {d : ElemType} {σ : Assignment} {s : Subscripts} {ts : List (Tensor Scalar)}
  {v : Assignment → Int} (hv : s.Validated)

include hv

theorem canonicalLabel_sizes {l : Label} (hl : l ∈ s.labels) :
    (σ ∘ writtenLabel s.labels) (s.canonicalLabel l) = σ l :=
  congrArg σ (Subscripts.writtenLabel_canonicalLabel hv.lettered hl)

theorem shapes_canonical {shapes : List Shape} (hsh : shapes = s.inputs.map fun g => g.map σ) :
    shapes = s.canonical.inputs.map fun g => g.map (σ ∘ writtenLabel s.labels) := by
  rw [hsh, Subscripts.canonical, Subscripts.relabel, List.map_map]
  apply List.map_congr_left
  intro g hg
  rw [Function.comp_apply, List.map_map]
  exact List.map_congr_left fun l hl =>
    (canonicalLabel_sizes hv (s.mem_labels.mpr (.inl (s.mem_axes.mpr ⟨g, hg, hl⟩)))).symm

omit hv in
theorem product_canonical {α : Type} (ops : Arithmetic α) (operands : List (Tensor α))
    (b : Assignment) :
    product ops operands b s.canonical.accesses =
      product ops operands (b ∘ s.canonicalLabel) s.accesses := by
  have hacc : s.canonical.accesses =
      s.accesses.map fun x => ⟨x.operand, x.labels.map s.canonicalLabel⟩ := by
    simp only [Subscripts.accesses, Subscripts.canonical, Subscripts.relabel, List.zipIdx_map,
      List.map_map]
    rfl
  have hread (x : Access) : Access.read ops operands b
      ⟨x.operand, x.labels.map s.canonicalLabel⟩ =
      x.read ops operands (b ∘ s.canonicalLabel) := by
    simp only [Access.read, List.map_map]
  rw [hacc]
  cases s.accesses with
  | nil => rfl
  | cons x xs => simp only [List.map_cons, product, List.foldl_map, hread]

theorem Products.canonical (h : Products d σ s ts v) :
    Products d (σ ∘ writtenLabel s.labels) s.canonical ts
      fun b => v (b ∘ s.canonicalLabel) := by
  have haxes : s.canonical.axes = s.axes.map s.canonicalLabel := Subscripts.axes_relabel ..
  have hbelow {b : Assignment} (hb : b.Below (σ ∘ writtenLabel s.labels) s.canonical.axes) :
      Assignment.Below (b ∘ s.canonicalLabel) σ s.axes := by
    intro l hl
    have hlt := hb (s.canonicalLabel l) (haxes ▸ List.mem_map_of_mem hl)
    rwa [canonicalLabel_sizes hv (s.mem_labels.mpr (.inl hl))] at hlt
  refine ⟨fun b hb => ?_, fun b hb => h.admits _ (hbelow hb), fun a b hab => ?_⟩
  · rw [product_canonical, h.product _ (hbelow hb)]
  · exact h.depends fun l hl => hab (s.canonicalLabel l) (haxes ▸ List.mem_map_of_mem hl)

/-- Summing over canonical labels is summing over the labels they stand for. -/
theorem sumOver_canonical (hd : DependsOn v {l | l ∈ s.axes}) (a : Assignment) :
    sumOver (σ ∘ writtenLabel s.labels) s.canonical.summed (fun b => v (b ∘ s.canonicalLabel))
        (a ∘ writtenLabel s.labels) =
      sumOver σ s.summed v a := by
  have hi := Subscripts.canonicalLabel_injOn hv.lettered
  have hp := Subscripts.summed_relabel_perm hi
  have hax : ∀ l ∈ s.axes, l ∈ s.labels := fun l hl => s.mem_labels.mpr (.inl hl)
  have hsum : ∀ l ∈ s.summed, l ∈ s.labels := fun l hl => hax l (s.mem_summed.mp hl).1
  calc sumOver (σ ∘ writtenLabel s.labels) s.canonical.summed
        (fun b => v (b ∘ s.canonicalLabel)) (a ∘ writtenLabel s.labels)
    _ = sumOver (σ ∘ writtenLabel s.labels) (s.summed.map s.canonicalLabel)
          (fun b => v (b ∘ s.canonicalLabel)) (a ∘ writtenLabel s.labels) :=
        sumOver_of_mem_iff (Subscripts.nodup_summed _) (hp.nodup_iff.mp (Subscripts.nodup_summed _))
          fun _ => hp.mem_iff
    _ = sumOver ((σ ∘ writtenLabel s.labels) ∘ s.canonicalLabel) s.summed v
          ((a ∘ writtenLabel s.labels) ∘ s.canonicalLabel) :=
        sumOver_rename (hi.mono hax) hd fun l hl => (s.mem_summed.mp hl).1
    _ = sumOver σ s.summed v ((a ∘ writtenLabel s.labels) ∘ s.canonicalLabel) :=
        sumOver_congr_sizes fun l hl => canonicalLabel_sizes hv (hsum l hl)
    _ = sumOver σ s.summed v a := by
        apply dependsOn_sumOver hd
        rintro l ⟨hl, -⟩
        exact canonicalLabel_sizes hv (hax l hl)

/-- Kernels are made for canonical labels, and can be called wherever the labels agree up to their
names. -/
theorem call_canonical_yields {k : Kernel} {special : Bool} (hd : d.IsExact)
    (hk : k.pattern = s.canonical) (hb : kernelBody s.canonical (s.kind special) = .ok k.body)
    (hsh : ts.map Tensor.shape = s.inputs.map fun g => g.map σ)
    (ht : .common (ts.map Tensor.type) = d) (hp : Products d σ s ts v)
    (hc : d = .bool → (s.summed.map σ).prod < 2 ^ 64) (labels : Group) :
    Yields (Fits d (s.output.map σ))
      (fun t => Factor.Exact d σ ⟨s.output, t, sumOver σ s.summed v⟩)
      (k.call Scalar.arithmetic labels ts) := by
  have hkind : s.canonical.kind special = s.kind special :=
    Subscripts.kind_relabel (Subscripts.canonicalLabel_injOn hv.lettered) special
  have hshape := Subscripts.map_output_canonical hv σ
  have hsum : (s.canonical.summed.map (σ ∘ writtenLabel s.labels)).prod =
      (s.summed.map σ).prod := by
    have hp := Subscripts.summed_relabel_perm (Subscripts.canonicalLabel_injOn hv.lettered)
    rw [Subscripts.canonical, (hp.map _).prod_eq, List.map_map]
    congr 1
    exact List.map_congr_left fun l hl => canonicalLabel_sizes hv
      (s.mem_labels.mpr (.inl (s.mem_summed.mp hl).1))
  have hy := call_yields (k := k) hd (hk ▸ hv.canonical) (hk ▸ hkind ▸ hb)
    (hk ▸ shapes_canonical hv hsh) ht (hk ▸ hp.canonical hv) (hk ▸ hsum ▸ hc) labels
  rw [hk, hshape] at hy
  refine hy.imp Iff.rfl fun t ht => hp.exact_sumOver ht.type (ht.shape.trans hshape) ht.full ?_
  intro a ha
  have hmap := Subscripts.map_output_canonical hv a
  have hbelow : Assignment.Below (a ∘ writtenLabel s.labels) (σ ∘ writtenLabel s.labels)
      s.canonical.output := by
    rw [Assignment.Below, ← map_mem_tuples, hmap, hshape, map_mem_tuples]
    exact ha
  calc t.get (.exact 0) (s.output.map a)
    _ = t.get (.exact 0) (s.canonical.output.map (a ∘ writtenLabel s.labels)) := by rw [hmap]
    _ = _ := ht.get _ hbelow
    _ = d.element (sumOver σ s.summed v a) :=
      congrArg d.element (sumOver_canonical hv hp.depends a)

end

end Einsum
