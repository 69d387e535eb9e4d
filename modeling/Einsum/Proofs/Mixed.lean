import Einsum.Proofs.Promotion
import Einsum.Proofs.Run

namespace Einsum

section

variable {a b : ElemType} {x y : Scalar}

theorem ElemType.promote_eq_bool : a.promote b = .bool ↔ a = .bool ∧ b = .bool := by
  have h : ∀ a ∈ all, ∀ b ∈ all, a.promote b = .bool ↔ a = .bool ∧ b = .bool := by
    decide
  exact h a (mem_all a) b (mem_all b)

theorem ElemType.isExact_of_mem_wholes (h : a ∈ wholes) : a.IsExact := by
  cases a with
  | bool | int => trivial
  | float32 | float64 | object => exact absurd h (by decide)

theorem Scalar.HasType.isElement (h : x.HasType a) : x.IsElement a := by
  cases h with
  | bool b => exact .bool b
  | int t n h => exact .int t n h
  | exact n => exact .object rfl

theorem Scalar.HasType.mul {w : IntType} (hx : x.HasType a) (hy : y.HasType b) (ha : a.Within w)
    (hb : b.Within w) :
    Scalar.mul x y = (a.promote b).element (x.toInt * y.toInt) := by
  have hfixed : ∀ d ∈ ElemType.wholes, d ≠ .object := by decide
  have ha' := hfixed a ha.mem_wholes
  have hb' := hfixed b hb.mem_wholes
  have hx' := hx.isElement.elemType ha'
  have hy' := hy.isElement.elemType hb'
  have hm : Scalar.mul x y = Operator.mul.typed x y :=
    Operator.mul.apply_fixed (hx' ▸ ha') (hy' ▸ hb')
  have hd := (ha.promote hb).mem_wholes
  rw [hm, Operator.typed, hx', hy']
  cases hp : a.promote b with
  | bool =>
    obtain ⟨rfl, rfl⟩ := ElemType.promote_eq_bool.mp hp
    cases hx with
    | bool p =>
      cases hy with
      | bool q => cases p <;> cases q <;> rfl
  | int t => rfl
  | float32 | float64 | object => exact absurd (hp ▸ hd) (by decide)

end

section

variable {σ : Assignment} {s : Subscripts} {ts : List (Tensor Scalar)} {v : Assignment → Int}
  {d : ElemType}

theorem perform_yields (hv : s.Validated) (hd : d.IsExact)
    (hsh : ts.map Tensor.shape = s.inputs.map fun g => g.map σ)
    (ht : .common (ts.map Tensor.type) = d) (hp : Products d σ s ts v)
    (hc : d = .bool → (s.summed.map σ).prod < 2 ^ 64) (special : Bool) :
    Yields (Fits d (s.output.map σ))
      (fun t => Factor.Exact d σ ⟨s.output, t, sumOver σ s.summed v⟩)
      (s.perform Scalar.arithmetic special ts) := by
  obtain ⟨b, hb⟩ := exists_kernelBody s.canonical special
  rw [kind_canonical hv] at hb
  rw [Subscripts.perform, Kernel.emit, hb]
  exact call_canonical_yields
    (k := ⟨0, Kernel.nameOf s.canonical "", s.kind special, s.canonical, b⟩) hv hd rfl hb hsh ht
    hp hc s.labels

theorem perform_isEinsum (hv : s.Validated) (hd : d.IsExact) (hfit : s.Fit d σ ts)
    (hne : ts ≠ []) (hc : d = .bool → (s.summed.map σ).prod < 2 ^ 64) (special : Bool) :
    Yields (Fits d (s.output.map σ)) (IsEinsum d σ s ts)
      (s.perform Scalar.arithmetic special ts) := by
  have hl := labels_operandFactor hfit.length_eq
  have hts := tensor_operandFactor hfit.length_eq
  have hf := hfit.exact_factors
  have hne' : List.zipWith operandFactor s.inputs ts ≠ [] := by
    intro hn
    rw [hn] at hts
    exact hne hts.symm
  have hy := perform_yields hv hd (shapes_of_exact hl hf) (common_of_exact hne' hf)
    (products_of_exact hd hl hne' hf) hc special
  rw [hts] at hy
  exact hy.imp Iff.rfl fun r hr => isEinsum_of_exact hd hfit hr

end

/-- The type of an array and the whole numbers that its elements stand for under its labels, which
are not reduced to the type. -/
structure Numbers where
  type : ElemType
  value : Assignment → Int

def Numbers.of (g : Group) (t : Tensor Scalar) : Numbers := ⟨t.type, (operandFactor g t).value⟩

def Numbers.contract (σ : Assignment) (s : Subscripts) (x y : Numbers) : Numbers :=
  ⟨x.type.promote y.type, sumOver σ s.summed fun a => x.value a * y.value a⟩

section

variable (w : IntType) (σ : Assignment) (s : Subscripts) (r : Numbers)

def Allocates : Prop := Fits r.type (s.output.map σ)

def Tallies : Prop := r.type = .bool → (s.summed.map σ).prod < 2 ^ 64

def Keeps : Prop :=
  r.type = .int w ∨ ∀ ns ∈ tuples (s.output.map σ),
    (r.type.element (r.value (.ofIndex s.output ns))).toInt = r.value (.ofIndex s.output ns)

instance : Decidable (Allocates σ s r) := inferInstanceAs (Decidable (Fits _ _))

instance : Decidable (Tallies σ s r) := inferInstanceAs (Decidable (_ → _))

instance : Decidable (Keeps w σ s r) := inferInstanceAs (Decidable (_ ∨ _))

end

theorem Fits.of_byteCount_le {d e : ElemType} {shape : Shape} (h : Fits d shape)
    (hle : e.byteCount ≤ d.byteCount) :
    Fits e shape :=
  lt_of_le_of_lt (Nat.mul_le_mul_right _ hle) h

theorem Keeps.of_below {w : IntType} {σ : Assignment} {s : Subscripts} {r : Numbers}
    (h : Keeps w σ s r) (hn : s.output.Nodup) (hd : DependsOn r.value {l | l ∈ s.output})
    {a : Assignment} (ha : a.Below σ s.output) :
    r.type = .int w ∨ (r.type.element (r.value a)).toInt = r.value a := by
  refine h.imp_right fun hk => ?_
  have hm := map_mem_tuples.mpr ha
  have heq : r.value a = r.value (.ofIndex s.output (s.output.map a)) :=
    hd fun l hl => (List.map_inj_left.mp (map_ofIndex hn hm) l hl).symm
  rw [heq]
  exact hk _ hm

/-- Two numbers are the same or, in the last type, the same modulo two to its width. -/
def Coincide (w : IntType) (d : ElemType) (m n : Int) : Prop :=
  if d = .int w then w.wrap m = w.wrap n else m = n

/-- An array has elements of its type and, as long as nothing was lost, they coincide with the
numbers. -/
structure Stands (w : IntType) (kept : Prop) (σ : Assignment) (g : Group) (t : Tensor Scalar)
    (r : Numbers) : Prop where
  type : t.type = r.type
  within : r.type.Within w
  shape : t.shape = g.map σ
  full : t.IsFull
  depends : DependsOn r.value {l | l ∈ g}
  element : ∀ a : Assignment, a.Below σ g → (t.get (.exact 0) (g.map a)).HasType r.type
  coincide : kept → ∀ a : Assignment, a.Below σ g →
    Coincide w r.type ((operandFactor g t).value a) (r.value a)

section

variable {w : IntType} {kept : Prop} {σ : Assignment} {g h out : Group} {x y : Tensor Scalar}
  {p q : Numbers}

theorem mem_axes_pair {l : Label} :
    l ∈ (Subscripts.mk [g, h] out).axes ↔ l ∈ g ∨ l ∈ h := by
  simp [Subscripts.mem_axes]

theorem dependsOn_mul {u v : Assignment → Int} (hu : DependsOn u {l | l ∈ g})
    (hv : DependsOn v {l | l ∈ h}) :
    DependsOn (fun a => u a * v a) {l | l ∈ (Subscripts.mk [g, h] out).axes} := by
  intro a b hab
  have hg := hu fun l hl => hab l (mem_axes_pair.mpr (.inl hl))
  have hh := hv fun l hl => hab l (mem_axes_pair.mpr (.inr hl))
  simp only [hg, hh]

theorem below_pair {a : Assignment} (ha : a.Below σ (Subscripts.mk [g, h] out).axes) :
    a.Below σ g ∧ a.Below σ h :=
  ⟨fun l hl => ha l (mem_axes_pair.mpr (.inl hl)),
    fun l hl => ha l (mem_axes_pair.mpr (.inr hl))⟩

namespace Coincide

variable {d e : ElemType} {m m' n n' : Int}

theorem wrap_eq (h : Coincide w d m n) : w.wrap m = w.wrap n := by
  by_cases hd : d = .int w
  · rwa [Coincide, if_pos hd] at h
  · rw [Coincide, if_neg hd] at h
    rw [h]

theorem mul (hm : Coincide w d m m') (hn : Coincide w e n n') (hd : d.Within w) (he : e.Within w) :
    Coincide w (d.promote e) (m * n) (m' * n') := by
  by_cases hp : d.promote e = .int w
  · rw [Coincide, if_pos hp, ← w.wrap_mul, hm.wrap_eq, hn.wrap_eq, w.wrap_mul]
  -- A factor of the last type would give a product of the last type, so both are narrower.
  · have hd' : d ≠ .int w := by
      rintro rfl
      exact hp ((ElemType.promote_comm _ _).trans he)
    have he' : e ≠ .int w := by
      rintro rfl
      exact hp hd
    rw [Coincide, if_neg hd'] at hm
    rw [Coincide, if_neg he'] at hn
    rw [Coincide, if_neg hp, hm, hn]

theorem add (hm : Coincide w d m m') (hn : Coincide w d n n') : Coincide w d (m + n) (m' + n') := by
  by_cases hd : d = .int w
  · rw [Coincide, if_pos hd, ← w.wrap_add, hm.wrap_eq, hn.wrap_eq, w.wrap_add]
  · rw [Coincide, if_neg hd] at hm hn ⊢
    rw [hm, hn]

theorem refl (m : Int) : Coincide w d m m := by
  by_cases hd : d = .int w <;> simp [Coincide, hd]

theorem sumOver {ls : Group} {u v : Assignment → Int} {a : Assignment}
    (h : ∀ b ∈ assignments σ ls a, Coincide w d (u b) (v b)) :
    Coincide w d (sumOver σ ls u a) (sumOver σ ls v a) := by
  rw [Einsum.sumOver, Einsum.sumOver]
  generalize assignments σ ls a = bs at h
  induction bs with
  | nil => exact refl 0
  | cons b bs ih =>
    rw [List.forall_mem_cons] at h
    exact h.1.add (ih h.2)

theorem element (h : Coincide w d m n) (hk : d = .int w ∨ (d.element n).toInt = n) :
    Coincide w d (d.element m).toInt n := by
  by_cases hd : d = .int w
  · have hm := h.wrap_eq
    rw [Coincide, if_pos hd, hd, ElemType.element, Scalar.toInt, w.wrap_wrap, hm]
  · rw [Coincide, if_neg hd] at h ⊢
    rw [h]
    exact hk.resolve_left hd

end Coincide

theorem Stands.products (hx : Stands w kept σ g x p) (hy : Stands w kept σ h y q) :
    Products (p.type.promote q.type) σ ⟨[g, h], out⟩ [x, y]
      fun a => (operandFactor g x).value a * (operandFactor h y).value a where
  product a ha := by
    obtain ⟨hg, hh⟩ := below_pair ha
    exact (hx.element a hg).mul (hy.element a hh) hx.within hy.within
  admits a ha hb := by
    obtain ⟨hp, hq⟩ := ElemType.promote_eq_bool.mp hb
    obtain ⟨hg, hh⟩ := below_pair ha
    exact mul_nonneg (ElemType.admits_toInt (hx.element a hg) hp)
      (ElemType.admits_toInt (hy.element a hh) hq)
  depends := dependsOn_mul (dependsOn_operandFactor g x) (dependsOn_operandFactor h y)

theorem Stands.contract (hx : Stands w kept σ g x p) (hy : Stands w kept σ h y q)
    (hv : (Subscripts.mk [g, h] out).Validated)
    (hc : Tallies σ ⟨[g, h], out⟩ (p.contract σ ⟨[g, h], out⟩ q))
    (hk : kept → Keeps w σ ⟨[g, h], out⟩ (p.contract σ ⟨[g, h], out⟩ q))
    (special : Bool) :
    Yields (Allocates σ ⟨[g, h], out⟩ (p.contract σ ⟨[g, h], out⟩ q))
      (fun t => Stands w kept σ out t (p.contract σ ⟨[g, h], out⟩ q))
      ((Subscripts.mk [g, h] out).perform Scalar.arithmetic special [x, y]) := by
  have hw := hx.within.promote hy.within
  have hd := ElemType.isExact_of_mem_wholes hw.mem_wholes
  have hdep : DependsOn (p.contract σ ⟨[g, h], out⟩ q).value {l | l ∈ out} := fun a b hab =>
    dependsOn_output (dependsOn_mul hx.depends hy.depends) hab
  have ht : .common ([x, y].map Tensor.type) = p.type.promote q.type := by
    rw [List.map_cons, List.map_singleton, ElemType.common_pair, hx.type, hy.type]
  have hy' := perform_yields hv hd (by simp [hx.shape, hy.shape]) ht (hx.products hy) hc special
  refine hy'.imp Iff.rfl fun t hexact => ?_
  refine ⟨hexact.type, hw, hexact.shape, hexact.full, hdep, fun a ha => ?_,
    fun hkept a ha => ?_⟩
  · rw [hexact.get a ha]
    exact ElemType.hasType_element hd _
  · have hget : (operandFactor out t).value a = ((p.type.promote q.type).element _).toInt :=
      congrArg Scalar.toInt (hexact.get a ha)
    rw [hget]
    refine Coincide.element (Coincide.sumOver fun b hb => ?_)
      ((hk hkept).of_below hv.output_nodup hdep ha)
    obtain ⟨hg, hh⟩ := below_pair (below_axes ha hb)
    exact (hx.coincide hkept b hg).mul (hy.coincide hkept b hh) hx.within hy.within

end

def StepsSatisfy (Q : Subscripts → Numbers → Prop) (σ : Assignment) :
    (NamedTensor → Numbers) → List Step → Prop
  | _, [] => True
  | ψ, s :: steps =>
    Q s.subscripts ((ψ s.left).contract σ s.subscripts (ψ s.right)) ∧
      StepsSatisfy Q σ (Function.update ψ s.result
        ((ψ s.left).contract σ s.subscripts (ψ s.right))) steps

instance decidableStepsSatisfy (Q : Subscripts → Numbers → Prop) [∀ s r, Decidable (Q s r)]
    (σ : Assignment) :
    (ψ : NamedTensor → Numbers) → (steps : List Step) →
      Decidable (StepsSatisfy Q σ ψ steps)
  | _, [] => inferInstanceAs (Decidable True)
  | ψ, s :: steps =>
    have := decidableStepsSatisfy Q σ
      (Function.update ψ s.result ((ψ s.left).contract σ s.subscripts (ψ s.right))) steps
    inferInstanceAs (Decidable (_ ∧ _))

def standing (φ : NamedTensor → Tensor Scalar) (ψ : NamedTensor → Numbers) (t : NamedTensor) :
    Factor :=
  ⟨t.labels, φ t, (ψ t).value⟩

section

variable {w : IntType} {kept : Prop} {σ : Assignment} {output : Group} {n : Nat}
  {live rest : List NamedTensor} {left right : NamedTensor} {steps : List Step}
  {φ : NamedTensor → Tensor Scalar} {ψ : NamedTensor → Numbers}

theorem standing_update (u : NamedTensor) (x : Tensor Scalar) (r : Numbers) :
    standing (Function.update φ u x) (Function.update ψ u r) =
      Function.update (standing φ ψ) u ⟨u.labels, x, r.value⟩ := by
  funext t
  by_cases h : t = u
  · subst h
    simp [standing]
  · simp [standing, h]

/-- The types of what is live combine to the same type after a step. -/
theorem join_step (hp : live.Perm (left :: right :: rest))
    (hw : ∀ t ∈ live, (ψ t).type.Within w) {u : NamedTensor} (hu : u ∉ rest) {r : Numbers}
    (hr : r.type = (ψ left).type.promote (ψ right).type) :
    ElemType.join ((u :: rest).map fun t => (Function.update ψ u r t).type) =
      .join (live.map fun t => (ψ t).type) := by
  have hw' : ∀ t ∈ left :: right :: rest, (ψ t).type.Within w :=
    fun t ht => hw t (hp.mem_iff.mpr ht)
  rw [List.forall_mem_cons, List.forall_mem_cons] at hw'
  obtain ⟨hl, hr', hrest⟩ := hw'
  have hjoin : (ElemType.join (rest.map fun t => (ψ t).type)).Within w :=
    .join (List.forall_mem_map.mpr hrest)
  have hsame : (rest.map fun t => (Function.update ψ u r t).type) =
      rest.map fun t => (ψ t).type :=
    List.map_congr_left fun t ht => by rw [Function.update_of_ne fun he : t = u => hu (he ▸ ht)]
  rw [ElemType.join_perm (List.forall_mem_map.mpr fun t ht => (hw t ht).mem_wholes) (hp.map _),
    List.map_cons, hsame, Function.update_self, hr]
  exact ElemType.promote_assoc hl.mem_wholes hr'.mem_wholes hjoin.mem_wholes

/-- Steps carried out on arrays that stand for numbers, in the types that they combine to. -/
theorem runSteps_stands (h : Contracts output n live steps)
    (hv : ∀ s ∈ steps, s.subscripts.Validated) (hf : Fresh n live) (hc : Covers output live)
    (hs : ∀ t ∈ live, Stands w kept σ t.labels (φ t) (ψ t))
    (hj : ElemType.join (live.map fun t => (ψ t).type) = .int w)
    (ht : StepsSatisfy (Tallies σ) σ ψ steps)
    (hk : kept → StepsSatisfy (Keeps w σ) σ ψ steps) (special : Bool) :
    Yields (StepsSatisfy (Allocates σ) σ ψ steps)
      (fun φ' => Stands w kept σ output (φ' (finalTensor output))
        ⟨.int w, liveValue σ output (standing φ ψ) live⟩)
      (runSteps Scalar.arithmetic special φ steps) := by
  -- All live arrays stand for their numbers, and their types combine to the last type.
  induction h generalizing φ ψ with
  | done =>
    rw [liveValue_final]
    have hfinal := hs _ (List.mem_singleton_self _)
    have htype : (ψ (finalTensor output)).type = .int w := (ElemType.promote_bool _).symm.trans hj
    refine Yields.ok ?_
    rw [← htype]
    exact hfinal
  | @step n live rest left right steps live_perm tail ih =>
    have hf' := hf.perm live_perm
    have hc' := hc.perm live_perm
    have hs' : ∀ t ∈ left :: right :: rest, Stands w kept σ t.labels (φ t) (ψ t) :=
      fun t ht => hs t (live_perm.mem_iff.mpr ht)
    have hjoin := join_step live_perm (fun t ht => (hs t ht).within) (hf'.notMem_rest output)
      (r := (ψ left).contract σ (stepOf output n left right rest).subscripts (ψ right)) rfl
    rw [List.forall_mem_cons] at hv
    rw [List.forall_mem_cons, List.forall_mem_cons] at hs'
    obtain ⟨hl, hr, hrest⟩ := hs'
    have hstep := hl.contract hr hv.1 ht.1 (fun k => (hk k).1) special
    refine hstep.bind fun x hx => ?_
    -- The result takes the place of its operands, in the arrays as in the numbers.
    have hlive := forall_update₂ (P := fun t => Stands w kept σ t.labels)
      (hf'.notMem_rest output) hx hrest
    have hi := ih hv.2 hf'.step hc'.step hlive (hjoin.trans hj) ht.2 fun k => (hk k).2
    have hvalue : sumOver σ (stepOf output n left right rest).subscripts.summed
        (fun a => (ψ left).value a * (ψ right).value a) =
          sumOver σ (stepOf output n left right rest).summed
            (productAt [standing φ ψ left, standing φ ψ right]) := by
      rw [stepOf_subscripts_summed hc']
      congr 1
      funext a
      simp [productAt, standing]
    rw [standing_update, liveValue_step hc' (fun t ht => (hrest t ht).depends)
      (hf'.notMem_rest output) hvalue, ← liveValue_perm live_perm] at hi
    exact hi

end

end Einsum
