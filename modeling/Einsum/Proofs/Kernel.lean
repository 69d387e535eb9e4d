import Einsum.Proofs.Exact
import Einsum.Proofs.Kind

namespace Einsum

/-- An array with labels for its axes, and the whole numbers that its elements stand for. The
numbers are not reduced to the type of the array. -/
structure Factor where
  labels : Group
  tensor : Tensor Scalar
  value : Assignment → Int

structure Factor.Exact (d : ElemType) (sizes : Assignment) (f : Factor) : Prop where
  type : f.tensor.type = d
  shape : f.tensor.shape = f.labels.map sizes
  full : f.tensor.IsFull
  depends : DependsOn f.value {l | l ∈ f.labels}
  admits : ∀ a : Assignment, a.Below sizes f.labels → d.Admits (f.value a)
  get : ∀ a : Assignment, a.Below sizes f.labels →
    f.tensor.get (.exact 0) (f.labels.map a) = d.element (f.value a)

def productAt (fs : List Factor) (a : Assignment) : Int := (fs.map fun f => f.value a).prod

variable {d : ElemType} {sizes a : Assignment} {fs : List Factor} {s : Subscripts}

theorem read_accesses (hs : s.inputs = fs.map Factor.labels) :
    s.accesses.map (Access.read Scalar.arithmetic (fs.map Factor.tensor) a) =
      fs.map fun f => f.tensor.get (.exact 0) (f.labels.map a) := by
  have hl : s.inputs.length = fs.length := by simp [hs]
  apply List.ext_getElem (by simp [Subscripts.accesses, hl])
  intro k h₁ h₂
  have hk : k < fs.length := by simpa using h₂
  have hg : s.inputs[k] = fs[k].labels := by simp [hs]
  simp [Subscripts.accesses, Access.read, hk, hg, Scalar.arithmetic]

theorem foldl_mul_element (hd : d.IsExact) (m : Int) (ns : List Int) :
    (ns.map d.element).foldl Scalar.mul (d.element m) = d.element (m * ns.prod) := by
  induction ns generalizing m with
  | nil => simp
  | cons n ns ih =>
    rw [List.map_cons, List.foldl_cons, ElemType.mul_element hd, ih, List.prod_cons, mul_assoc]

theorem product_accesses (hd : d.IsExact) (hs : s.inputs = fs.map Factor.labels) (hne : fs ≠ [])
    (hf : ∀ f ∈ fs, f.Exact d sizes) (ha : a.Below sizes s.axes) :
    product Scalar.arithmetic (fs.map Factor.tensor) a s.accesses = d.element (productAt fs a) := by
  have hr : s.accesses.map (Access.read Scalar.arithmetic (fs.map Factor.tensor) a) =
      (fs.map fun f => f.value a).map d.element := by
    rw [read_accesses hs, List.map_map]
    apply List.map_congr_left
    intro f hm
    exact (hf f hm).get a
      fun l hl => ha l (s.mem_axes.mpr ⟨f.labels, hs ▸ List.mem_map_of_mem hm, hl⟩)
  obtain ⟨f, fs, rfl⟩ := List.exists_cons_of_ne_nil hne
  obtain ⟨x, xs, hx, hx₁, hx₂⟩ := List.map_eq_cons_iff.mp
    (hr.trans (List.map_cons : _ =
      d.element (f.value a) :: (fs.map fun f => f.value a).map d.element))
  rw [hx, product, hx₁, ← List.foldl_map (g := Scalar.arithmetic.mul), hx₂]
  exact foldl_mul_element hd _ _

theorem admits_productAt (hf : ∀ f ∈ fs, f.Exact d sizes)
    (ha : ∀ f ∈ fs, a.Below sizes f.labels) :
    d.Admits (productAt fs a) := by
  intro hd
  apply List.prod_nonneg
  intro n hn
  obtain ⟨f, hm, rfl⟩ := List.mem_map.mp hn
  exact (hf f hm).admits a (ha f hm) hd

theorem dependsOn_productAt (hs : s.inputs = fs.map Factor.labels)
    (hf : ∀ f ∈ fs, f.Exact d sizes) :
    DependsOn (productAt fs) {l | l ∈ s.axes} := by
  intro b c h
  rw [productAt, productAt]
  congr 1
  apply List.map_congr_left
  intro f hm
  exact (hf f hm).depends fun l hl =>
    h l (s.mem_axes.mpr ⟨f.labels, hs ▸ List.mem_map_of_mem hm, hl⟩)

theorem length_assignments (ls : Group) :
    (assignments sizes ls a).length = (ls.map sizes).prod := by
  induction ls generalizing a with
  | nil => rfl
  | cons l ls ih => simp [assignments, List.length_flatMap, ih]

theorem below_axes {b : Assignment} (ha : a.Below sizes s.output)
    (hb : b ∈ assignments sizes s.summed a) : b.Below sizes s.axes := by
  obtain ⟨hlt, heq⟩ := mem_assignments.mp hb
  intro l hl
  by_cases ho : l ∈ s.output
  · rw [heq l fun hm => (s.mem_summed.mp hm).2 ho]
    exact ha l ho
  · exact hlt l (s.mem_summed.mpr ⟨hl, ho⟩)

theorem below_labels {f : Factor} (hs : s.inputs = fs.map Factor.labels) (hm : f ∈ fs)
    (ha : a.Below sizes s.axes) : a.Below sizes f.labels :=
  fun l hl => ha l (s.mem_axes.mpr ⟨f.labels, hs ▸ List.mem_map_of_mem hm, hl⟩)

theorem dependsOn_output {v : Assignment → Int} (hv : DependsOn v {l | l ∈ s.axes}) :
    DependsOn (sumOver sizes s.summed v) {l | l ∈ s.output} := by
  intro b c h
  apply dependsOn_sumOver hv
  rintro l ⟨hl, hn⟩
  by_contra hne
  exact hn (s.mem_summed.mpr ⟨hl, fun ho => hne (h l ho)⟩)

structure Products (d : ElemType) (sizes : Assignment) (s : Subscripts) (ts : List (Tensor Scalar))
    (v : Assignment → Int) : Prop where
  product : ∀ a : Assignment, a.Below sizes s.axes → product Scalar.arithmetic ts a s.accesses =
    d.element (v a)
  admits : ∀ a : Assignment, a.Below sizes s.axes → d.Admits (v a)
  depends : DependsOn v {l | l ∈ s.axes}

theorem products_of_exact (hd : d.IsExact) (hs : s.inputs = fs.map Factor.labels) (hne : fs ≠ [])
    (hf : ∀ f ∈ fs, f.Exact d sizes) :
    Products d sizes s (fs.map Factor.tensor) (productAt fs) where
  product _ ha := product_accesses hd hs hne hf ha
  admits _ ha := admits_productAt hf fun _ hm => below_labels hs hm ha
  depends := dependsOn_productAt hs hf

theorem shapes_of_exact (hs : s.inputs = fs.map Factor.labels)
    (hf : ∀ f ∈ fs, f.Exact d sizes) :
    (fs.map Factor.tensor).map Tensor.shape = s.inputs.map fun g => g.map sizes := by
  rw [hs, List.map_map, List.map_map]
  exact List.map_congr_left fun f hm => (hf f hm).shape

theorem common_of_exact (hne : fs ≠ []) (hf : ∀ f ∈ fs, f.Exact d sizes) :
    .common ((fs.map Factor.tensor).map Tensor.type) = d := by
  have htypes : (fs.map Factor.tensor).map Tensor.type = List.replicate (fs.length - 1 + 1) d := by
    rw [List.eq_replicate_iff, Nat.sub_add_cancel (List.length_pos_of_ne_nil hne)]
    simpa using fun f hm => (hf f hm).type
  rw [htypes]
  exact ElemType.common_replicate d _

section

variable (hd : d.IsExact) {ts : List (Tensor Scalar)} {v : Assignment → Int}
  (hp : Products d sizes s ts v)

include hd hp

theorem total_products (ha : a.Below sizes s.output) :
    total Scalar.arithmetic ts s.accesses (assignments sizes s.summed a) (.exact 0) =
      d.accumulator ((assignments sizes s.summed a).map v) := by
  have hadd : ∀ x, ∀ b ∈ assignments sizes s.summed a,
      Scalar.arithmetic.add x (product Scalar.arithmetic ts b s.accesses) =
        Scalar.add x (d.element (v b)) := by
    intro x b hb
    rw [hp.product b (below_axes ha hb)]
    rfl
  rw [total, List.foldl_ext _ _ _ hadd, ← ElemType.accumulator_nil d,
    ← List.foldl_map (f := v) (g := fun x n => Scalar.add x (d.element n)),
    ElemType.foldl_add_element hd, List.nil_append]

theorem sums_products (ha : a.Below sizes s.output) :
    Sums Scalar.arithmetic ts s.accesses (assignments sizes s.summed a) fun x => ∃ ns, x =
      d.accumulator ns where
  zero := ⟨[], (ElemType.accumulator_nil d).symm⟩
  add := by
    rintro _ ⟨ns, rfl⟩ b hb
    rw [hp.product b (below_axes ha hb)]
    exact ⟨_, ElemType.add_accumulator hd ns⟩
  sound := by
    rintro _ ⟨ns, rfl⟩
    exact ElemType.fault?_accumulator d ns

/-- A reduction stores the sum of products, as long as truth values are not too many to be
counted. -/
theorem cast_reduced (hc : d = .bool → (s.summed.map sizes).prod < 2 ^ 64)
    (ha : a.Below sizes s.output) :
    Scalar.cast d (reduced Scalar.arithmetic ts sizes s a) =
      d.element (sumOver sizes s.summed v a) := by
  by_cases hn : s.summed = []
  · have hb : a ∈ assignments sizes s.summed a := by simp [hn, assignments]
    simp only [reduced, hn, List.isEmpty_nil, if_true, sumOver_nil]
    rw [hp.product a (below_axes ha hb), ElemType.cast_element hd]
  · have hr : reduced Scalar.arithmetic ts sizes s a =
        d.accumulator ((assignments sizes s.summed a).map v) := by
      rw [reduced, if_neg (by simpa using hn)]
      exact total_products hd hp ha
    rw [hr, ElemType.cast_accumulator hd, sumOver]
    · intro n hn
      obtain ⟨b, hb, rfl⟩ := List.mem_map.mp hn
      exact hp.admits b (below_axes ha hb)
    · rwa [List.length_map, length_assignments]

omit hd in
theorem Products.exact_sumOver {t : Tensor Scalar} (type : t.type = d)
    (shape : t.shape = s.output.map sizes) (full : t.IsFull)
    (get : ∀ a : Assignment, a.Below sizes s.output →
      t.get (.exact 0) (s.output.map a) = d.element (sumOver sizes s.summed v a)) :
    Factor.Exact d sizes ⟨s.output, t, sumOver sizes s.summed v⟩ where
  type := type
  shape := shape
  full := full
  get := get
  depends := dependsOn_output hp.depends
  admits := by
    intro a ha hb
    apply sumOver_nonneg
    intro b hb'
    exact hp.admits b (below_axes ha hb') hb

structure Blank (d : ElemType) (sizes : Assignment) (ls : Group) (t : Tensor Scalar) : Prop where
  type : t.type = d
  shape : t.shape = ls.map sizes
  full : t.IsFull
  get : ∀ ns ∈ tuples t.shape, t.get (.exact 0) ns = d.element 0

/-- Run on a result of zeros, a body leaves the sum of products in it. -/
def Computes (d : ElemType) (sizes : Assignment) (s : Subscripts) (ts : List (Tensor Scalar))
    (v : Assignment → Int) (b : Block) : Prop :=
  ∀ (c : Assignment) (t : Tensor Scalar), Blank d sizes s.output t →
    let final := b.run Scalar.arithmetic ts sizes c (.start Scalar.arithmetic t)
    final.failure = none ∧
      Factor.Exact d sizes ⟨s.output, final.result, sumOver sizes s.summed v⟩

theorem computes_reductionBody (hc : d = .bool → (s.summed.map sizes).prod < 2 ^ 64) :
    Computes d sizes s ts v (reductionBody s) := by
  intro c t ht
  obtain ⟨flat, hbody⟩ := reductionBody_eq s
  have hbelow : ∀ a ∈ assignments sizes s.output c, a.Below sizes s.output :=
    fun a ha => (mem_assignments.mp ha).1
  have hw : ∀ a ∈ assignments sizes s.output c,
      Writes (reductionCell s flat) (fun a => s.output.map a) (reduced Scalar.arithmetic ts sizes s)
        Scalar.arithmetic ts sizes a := by
    intro a ha
    refine reductionCell_writes flat (fun hn => ?_) (sums_products hd hp (hbelow a ha))
    have hb : a ∈ assignments sizes s.summed a := by simp [hn, assignments]
    rw [hp.product a (below_axes (hbelow a ha) hb)]
    exact ElemType.fault?_element
  obtain ⟨hr, hfail⟩ := foldl_writes (.exact 0) hw (.start Scalar.arithmetic t)
  rw [← run_loops, ← hbody] at hr hfail
  refine ⟨hfail, hp.exact_sumOver ?_ ?_ ?_ ?_⟩
  · rw [hr, scatter_type]
    exact ht.type
  · rw [hr, scatter_shape]
    exact ht.shape
  · rw [hr]
    exact scatter_isFull _ _ _ ht.full _
  · intro a ha
    rw [hr]
    apply get_written ht.shape ht.full ha
    intro b hb hba
    have hv := cast_reduced hd hp hc (hbelow b hb)
    rw [dependsOn_output hp.depends hba, ← ht.type] at hv
    rw [← ht.type]
    exact hv

omit hp in
theorem foldl_grow {w : Assignment → Scalar} {v : Assignment → Int} {bs : List Assignment}
    {m : Int} (hm : d.Admits m) (hw : ∀ b ∈ bs, w b = d.element (v b))
    (hv : ∀ b ∈ bs, d.Admits (v b)) :
    bs.foldl (grow Scalar.arithmetic d w) (d.element m) = d.element (m + (bs.map v).sum) := by
  induction bs generalizing m with
  | nil => simp
  | cons b bs ih =>
    have hb := hv b List.mem_cons_self
    have hg : grow Scalar.arithmetic d w (d.element m) b = d.element (m + v b) := by
      rw [grow, hw b List.mem_cons_self]
      exact ElemType.cast_add_element hd hm hb
    rw [List.foldl_cons, hg, ih (hm.add hb) (fun c hc => hw c (List.mem_cons_of_mem b hc))
      (fun c hc => hv c (List.mem_cons_of_mem b hc)), List.map_cons, List.sum_cons, add_assoc]

theorem grows_products {bs : List Assignment} (hbs : ∀ b ∈ bs, b.Below sizes s.axes) :
    Grows Scalar.arithmetic d (fun b => product Scalar.arithmetic ts b s.accesses) bs
      fun x => ∃ n, d.Admits n ∧ x = d.element n := by
  constructor
  · rintro _ ⟨n, -, rfl⟩ b hb
    rw [hp.product b (hbs b hb)]
    exact ElemType.fault?_add_element hd
  · rintro _ ⟨n, hn, rfl⟩ b hb
    have hb' := hp.admits b (hbs b hb)
    rw [hp.product b (hbs b hb)]
    exact ⟨_, hn.add hb', ElemType.cast_add_element hd hn hb'⟩

theorem get_matrixProduct {left right : Group} {row shared column : Label}
    (hm : MatrixProduct s left right row shared column) {t : Tensor Scalar}
    (ht : Blank d sizes s.output t) (ha : a.Below sizes s.output) (c : Assignment) :
    (grown Scalar.arithmetic s.output (fun b => product Scalar.arithmetic ts b s.accesses) t
        (assignments sizes [row, shared, column] c)).get (.exact 0) (s.output.map a) =
      d.element (sumOver sizes s.summed v a) := by
  let b := Function.update (Function.update c row (a row)) column (a column)
  have hrow : b row = a row := by
    have hn : row ≠ column := by
      have := hm.nodup
      grind
    simp [b, Function.update_of_ne hn]
  have hba : ∀ l ∈ s.output, b l = a l :=
    List.map_inj_left.mp (hm.map_output_eq.mpr ⟨hrow, Function.update_self ..⟩)
  have hsum : ∀ e ∈ assignments sizes [shared] b, e.Below sizes s.axes := by
    intro e he
    refine below_axes (a := b) (fun l hl => hba l hl ▸ ha l hl) (mem_assignments.mpr ?_)
    simp only [hm.mem_summed]
    exact mem_assignments.mp he
  have hv : sumOver sizes [shared] v b = sumOver sizes s.summed v a := by
    rw [← dependsOn_output hp.depends hba]
    exact sumOver_of_mem_iff (List.nodup_singleton shared) s.nodup_summed
      fun l => hm.mem_summed.symm
  have hz : t.get Scalar.arithmetic.literalZero (s.output.map a) = d.element 0 :=
    ht.get _ (ht.shape ▸ map_mem_tuples.mpr ha)
  refine (hm.get_grown ht.shape ht.full ha).trans ?_
  rw [ht.type, hz, foldl_grow hd (fun _ => le_rfl) (fun e he => hp.product e (hsum e he))
    (fun e he => hp.admits e (hsum e he)), zero_add]
  exact congrArg d.element hv

/-- A matrix product reaches each element once for each value of the shared label. -/
theorem computes_matrixProduct {left right : Group} {row shared column : Label}
    (hm : MatrixProduct s left right row shared column) :
    Computes d sizes s ts v
      (nest [row, shared] (matrixCell s.output ⟨0, left⟩ ⟨1, right⟩ column)) := by
  intro c t ht
  have hbs : ∀ b ∈ assignments sizes [row, shared, column] c, b.Below sizes s.axes :=
    fun b hb l hl => (mem_assignments.mp hb).1 l (hm.mem_axes.mp hl)
  have hall : t.All (fun x => ∃ n, d.Admits n ∧ x = d.element n) (.exact 0) :=
    fun ns hns => ⟨0, fun _ => le_rfl, ht.get ns hns⟩
  have hg := grows_products hd hp hbs
  rw [← ht.type] at hg hall
  obtain ⟨hr, hfail⟩ := hm.run_body (.start Scalar.arithmetic t) hg ht.shape ht.full hall
  refine ⟨hfail, hp.exact_sumOver ?_ ?_ ?_ ?_⟩
  · rw [hr, grown, scatter_type]
    exact ht.type
  · rw [hr, grown, scatter_shape]
    exact ht.shape
  · rw [hr]
    exact scatter_isFull _ _ _ ht.full _
  · intro a ha
    rw [hr]
    exact get_matrixProduct hd hp hm ht ha c

theorem computes_kernelBody {special : Bool} {b : Block}
    (hb : kernelBody s (s.kind special) = .ok b)
    (hc : d = .bool → (s.summed.map sizes).prod < 2 ^ 64) : Computes d sizes s ts v b := by
  rcases kernelBody_cases hb with rfl | ⟨left, right, row, shared, column, hm, rfl⟩
  · exact computes_reductionBody hd hp hc
  · exact computes_matrixProduct hd hp hm

end

end Einsum
