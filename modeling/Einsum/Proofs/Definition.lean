import Einsum.Proofs.Kernel

namespace Einsum

structure Tensor.IsOf (d : ElemType) (t : Tensor Scalar) : Prop where
  type : t.type = d
  full : t.IsFull
  elements : ∀ x ∈ t.data.toList, x.HasType d

/-- Operands of one type, with an axis for each label, that agree on the sizes of labels. -/
def Subscripts.Fit (s : Subscripts) (d : ElemType) (σ : Assignment) (ts : List (Tensor Scalar)) :
    Prop :=
  List.Forall₂ (fun g t => t.IsOf d ∧ t.shape = g.map σ) s.inputs ts

def Subscripts.reductions (s : Subscripts) (σ a : Assignment) : List Assignment :=
  assignments σ (s.axes.dedup.filter (· ∉ s.output)) a

def Subscripts.factors (s : Subscripts) (ts : List (Tensor Scalar)) (a : Assignment) :
    List Scalar :=
  List.zipWith (fun g t => t.get (.exact 0) (g.map a)) s.inputs ts

def Subscripts.sumOfProducts (s : Subscripts) (σ : Assignment) (ts : List (Tensor Scalar))
    (a : Assignment) : Int :=
  ((s.reductions σ a).map fun b => ((s.factors ts b).map Scalar.toInt).prod).sum

/-- The element of the result at values of its labels, by definition: whether one of the products is
true, the sum modulo two to the width, or the sum itself. -/
def Subscripts.definition (s : Subscripts) (d : ElemType) (σ : Assignment)
    (ts : List (Tensor Scalar)) (a : Assignment) : Scalar :=
  match d with
  | .bool => .bool ((s.reductions σ a).any fun b => (s.factors ts b).all fun x => !x.isZero)
  | .int t => .int t (t.wrap (s.sumOfProducts σ ts a))
  | _ => .exact (s.sumOfProducts σ ts a)

def Subscripts.einsum (s : Subscripts) (d : ElemType) (σ : Assignment)
    (ts : List (Tensor Scalar)) :
    Tensor Scalar :=
  .tabulate d (s.output.map σ) fun ns => s.definition d σ ts (.ofIndex s.output ns)

structure IsEinsum (d : ElemType) (σ : Assignment) (s : Subscripts) (ts : List (Tensor Scalar))
    (r : Tensor Scalar) : Prop where
  type : r.type = d
  shape : r.shape = s.output.map σ
  full : r.IsFull
  get : ∀ a : Assignment, a.Below σ s.output →
    r.get (.exact 0) (s.output.map a) = s.definition d σ ts a

def operandFactor (g : Group) (t : Tensor Scalar) : Factor :=
  ⟨g, t, fun a => (t.get (.exact 0) (g.map a)).toInt⟩

section

variable {d : ElemType} {σ a : Assignment} {s : Subscripts} {ts : List (Tensor Scalar)}

theorem Tensor.IsOf.get {t : Tensor Scalar} (h : t.IsOf d) {ns : List Nat}
    (hn : ns ∈ tuples t.shape) :
    (t.get (.exact 0) ns).HasType d := by
  apply h.elements
  rw [Tensor.toList_data (.exact 0) h.full]
  exact List.mem_map_of_mem hn

theorem Tensor.isOf_fill (hd : d.IsExact) (shape : Shape) (n : Int) :
    (Tensor.fill d shape (d.element n)).IsOf d where
  type := rfl
  full := isFull_fill d shape _
  elements x hx := by
    rw [fill, Array.toList_replicate] at hx
    rw [List.eq_of_mem_replicate hx]
    exact ElemType.hasType_element hd n

theorem Subscripts.fit_fill (s : Subscripts) (hd : d.IsExact) (σ : Assignment) (n : Int) :
    s.Fit d σ (s.inputs.map fun g => .fill d (g.map σ) (d.element n)) := by
  rw [Fit, List.forall₂_map_right_iff, List.forall₂_same]
  exact fun g _ => ⟨Tensor.isOf_fill hd _ n, rfl⟩

theorem dependsOn_operandFactor (g : Group) (t : Tensor Scalar) :
    DependsOn (operandFactor g t).value {l | l ∈ g} := by
  intro a b hab
  have hm : g.map a = g.map b := List.map_congr_left hab
  simp only [operandFactor, hm]

theorem exact_operandFactor {g : Group} {t : Tensor Scalar} (h : t.IsOf d)
    (hs : t.shape = g.map σ) :
    (operandFactor g t).Exact d σ where
  type := h.type
  shape := hs
  full := h.full
  depends := dependsOn_operandFactor g t
  admits _ ha := ElemType.admits_toInt (h.get (hs ▸ map_mem_tuples.mpr ha))
  get _ ha := (ElemType.element_toInt (h.get (hs ▸ map_mem_tuples.mpr ha))).symm

theorem labels_operandFactor (hl : s.inputs.length = ts.length) :
    s.inputs = (List.zipWith operandFactor s.inputs ts).map Factor.labels := by
  rw [← List.map_uncurry_zip_eq_zipWith, List.map_map]
  exact (List.map_fst_zip hl.le).symm

theorem tensor_operandFactor (hl : s.inputs.length = ts.length) :
    (List.zipWith operandFactor s.inputs ts).map Factor.tensor = ts := by
  rw [← List.map_uncurry_zip_eq_zipWith, List.map_map]
  exact List.map_snd_zip hl.ge

theorem productAt_operandFactor (b : Assignment) :
    productAt (List.zipWith operandFactor s.inputs ts) b =
      ((s.factors ts b).map Scalar.toInt).prod := by
  rw [productAt, Subscripts.factors, List.map_zipWith, List.map_zipWith]
  rfl

theorem sumOver_operandFactor :
    sumOver σ s.summed (productAt (List.zipWith operandFactor s.inputs ts)) a =
      s.sumOfProducts σ ts a := by
  have hn : (s.axes.dedup.filter (· ∉ s.output)).Nodup := (List.nodup_dedup _).filter _
  have hm (l : Label) : l ∈ s.summed ↔ l ∈ s.axes.dedup.filter (· ∉ s.output) := by
    rw [s.mem_summed, List.mem_filter, List.mem_dedup, decide_eq_true_eq]
  rw [sumOver_of_mem_iff s.nodup_summed hn hm, sumOver, Subscripts.sumOfProducts,
    Subscripts.reductions]
  congr 1
  exact List.map_congr_left fun b _ => productAt_operandFactor b

theorem sum_ne_zero_iff {ns : List Int} (h : ∀ n ∈ ns, 0 ≤ n) :
    ns.sum ≠ 0 ↔ ∃ n ∈ ns, n ≠ 0 := by
  rw [Ne, ← ElemType.countP_eq_zero_iff h, List.countP_eq_zero]
  simp

theorem toInt_bool {x : Scalar} (h : x.HasType .bool) :
    0 ≤ x.toInt ∧ (x.toInt ≠ 0 ↔ (!x.isZero) = true) := by
  cases h with
  | bool b => cases b <;> decide

/-- For truth values, a sum of products is a disjunction of conjunctions. -/
theorem sumOfProducts_ne_zero_iff
    (h : ∀ b ∈ s.reductions σ a, ∀ x ∈ s.factors ts b, x.HasType .bool) :
    s.sumOfProducts σ ts a ≠ 0 ↔
      ((s.reductions σ a).any fun b => (s.factors ts b).all fun x => !x.isZero) = true := by
  rw [Subscripts.sumOfProducts, sum_ne_zero_iff, List.any_eq_true]
  · simp only [List.mem_map, exists_exists_and_eq_and, List.all_eq_true]
    apply exists_congr
    intro b
    apply and_congr_right
    intro hb
    rw [Ne, List.prod_eq_zero_iff, List.mem_map, not_exists]
    simp only [not_and]
    exact forall₂_congr fun x hx => (toInt_bool (h b hb x hx)).2
  · intro n hn
    obtain ⟨b, hb, rfl⟩ := List.mem_map.mp hn
    apply List.prod_nonneg
    intro m hm
    obtain ⟨x, hx, rfl⟩ := List.mem_map.mp hm
    exact (toInt_bool (h b hb x hx)).1

theorem Subscripts.Fit.hasType_factors (h : s.Fit d σ ts) {b : Assignment}
    (hb : b.Below σ s.axes) :
    ∀ x ∈ s.factors ts b, x.HasType d := by
  intro x hx
  rw [Subscripts.factors, ← List.map_uncurry_zip_eq_zipWith] at hx
  obtain ⟨⟨g, t⟩, hz, rfl⟩ := List.mem_map.mp hx
  obtain ⟨ht, hs⟩ := (List.forall₂_iff_zip.mp h).2 hz
  have hg := (List.of_mem_zip hz).1
  exact ht.get (hs ▸ map_mem_tuples.mpr fun l hl => hb l (s.mem_axes.mpr ⟨g, hg, hl⟩))

theorem Subscripts.Fit.exact_factors (h : s.Fit d σ ts) :
    ∀ f ∈ List.zipWith operandFactor s.inputs ts, f.Exact d σ := by
  intro f hf
  rw [← List.map_uncurry_zip_eq_zipWith] at hf
  obtain ⟨⟨g, t⟩, hz, rfl⟩ := List.mem_map.mp hf
  obtain ⟨ht, hs⟩ := (List.forall₂_iff_zip.mp h).2 hz
  exact exact_operandFactor ht hs

theorem mem_reductions_below {b : Assignment} (ha : a.Below σ s.output)
    (hb : b ∈ s.reductions σ a) :
    b.Below σ s.axes := by
  apply below_axes ha
  rw [Subscripts.reductions, mem_assignments] at hb
  rw [mem_assignments]
  simpa [s.mem_summed] using hb

theorem element_sumOver (hd : d.IsExact) (h : s.Fit d σ ts) (ha : a.Below σ s.output) :
    d.element (sumOver σ s.summed (productAt (List.zipWith operandFactor s.inputs ts)) a) =
      s.definition d σ ts a := by
  rw [sumOver_operandFactor]
  cases d with
  | bool =>
    have hb := sumOfProducts_ne_zero_iff fun b hb => h.hasType_factors (mem_reductions_below ha hb)
    rw [ElemType.element, Subscripts.definition, Scalar.bool.injEq, Bool.eq_iff_iff,
      decide_eq_true_eq]
    exact hb
  | int t => rfl
  | object => rfl
  | float32 | float64 => exact hd.elim

theorem isEinsum_of_exact (hd : d.IsExact) (h : s.Fit d σ ts) {r : Tensor Scalar}
    (hx : Factor.Exact d σ
      ⟨s.output, r, sumOver σ s.summed (productAt (List.zipWith operandFactor s.inputs ts))⟩) :
    IsEinsum d σ s ts r :=
  ⟨hx.type, hx.shape, hx.full, fun a ha => (hx.get a ha).trans (element_sumOver hd h ha)⟩

theorem IsEinsum.unique {r r' : Tensor Scalar} (h : IsEinsum d σ s ts r)
    (h' : IsEinsum d σ s ts r') (hn : s.output.Nodup) : r = r' := by
  apply Tensor.ext_get (.exact 0) h.full h'.full (h.type.trans h'.type.symm)
    (h.shape.trans h'.shape.symm)
  intro ns hns
  rw [h.shape] at hns
  have he := map_ofIndex hn hns
  have ha := map_mem_tuples.mp (he.symm ▸ hns)
  rw [← he, h.get _ ha, h'.get _ ha]

theorem definition_congr (hd : d.IsExact) (h : s.Fit d σ ts) {b : Assignment}
    (ha : a.Below σ s.output) (hab : ∀ l ∈ s.output, a l = b l) :
    s.definition d σ ts a = s.definition d σ ts b := by
  have hb : b.Below σ s.output := fun l hl => hab l hl ▸ ha l hl
  have hl := labels_operandFactor h.length_eq
  rw [← element_sumOver hd h ha, ← element_sumOver hd h hb,
    dependsOn_output (dependsOn_productAt hl h.exact_factors) hab]

theorem isEinsum_einsum (hd : d.IsExact) (h : s.Fit d σ ts) (hn : s.output.Nodup) :
    IsEinsum d σ s ts (s.einsum d σ ts) where
  type := rfl
  shape := rfl
  full := Tensor.isFull_tabulate _ _ _
  get a ha := by
    have hm := map_mem_tuples.mpr ha
    rw [Subscripts.einsum, Tensor.get_tabulate d _ hm]
    have he := List.map_inj_left.mp (map_ofIndex hn hm)
    exact (definition_congr hd h ha fun l hl => (he l hl).symm).symm

theorem IsEinsum.eq_einsum {r : Tensor Scalar} (h : IsEinsum d σ s ts r) (hd : d.IsExact)
    (hfit : s.Fit d σ ts) (hn : s.output.Nodup) : r = s.einsum d σ ts :=
  h.unique (isEinsum_einsum hd hfit hn) hn

end

end Einsum
