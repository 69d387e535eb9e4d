import Einsum.Proofs.Interchange
import Einsum.Proofs.Mismatch
import Einsum.Proofs.Promotion

namespace Einsum

section

variable {d : ElemType} (limit : Nat)

theorem lockstep_object :
    Lockstep Scalar.arithmetic .object limit (fun _ => True) fun _ x y => x = y where
  start := rfl
  step := by
    rintro k - x y z rfl -
    rfl
  store := by
    rintro k - x y rfl
    rfl

/-- The accumulator has the type of the result from the first term on. -/
theorem lockstep_fixed (hd : d ≠ .object) (hb : d ≠ .bool) :
    Lockstep Scalar.arithmetic d limit (Scalar.IsElement d)
      fun _ x y => x = .exact 0 ∧ y = Scalar.zero d ∨ x = y ∧ x.IsElement d where
  start := .inl ⟨rfl, rfl⟩
  step := by
    rintro k - x y z (⟨rfl, rfl⟩ | ⟨rfl, hx⟩) hz
    · have hzero : (Scalar.zero d).IsElement d := Scalar.isElement_cast hd _
      obtain ⟨ha, he⟩ := hzero.add hz hd
      have hl : Scalar.add (.exact 0) z = Operator.add.typed (Scalar.zero d) z := by
        have h := Operator.add.apply_zero_left (y := z) (hz.elemType hd ▸ hd)
        rwa [hz.elemType hd, if_neg hb] at h
      have hsum : Scalar.arithmetic.add (.exact 0) z = Scalar.add (Scalar.zero d) z :=
        hl.trans ha.symm
      rw [hsum]
      exact .inr ⟨he.cast.symm, he⟩
    · obtain ⟨-, he⟩ := hx.add hz hd
      exact .inr ⟨he.cast.symm, he⟩
  store := by
    rintro k - x y (⟨rfl, rfl⟩ | ⟨rfl, hx⟩)
    · rfl
    · exact hx.cast

/-- Truth values are counted in a word that they cannot fill. -/
theorem lockstep_bool :
    Lockstep Scalar.arithmetic .bool (2 ^ 63) (Scalar.IsElement .bool) fun k x y =>
      ∃ ns : List Int, ns.length = k ∧ (∀ n ∈ ns, 0 ≤ n) ∧
        x = ElemType.accumulator .bool ns ∧ y = ElemType.element .bool ns.sum where
  start := ⟨[], rfl, by simp, rfl, rfl⟩
  step := by
    rintro k - x y z ⟨ns, rfl, hn, rfl, rfl⟩ hz
    cases hz with
    | bool b =>
      have hb : Scalar.bool b = ElemType.element .bool (Scalar.ofBool b) := by cases b <;> rfl
      have hp : 0 ≤ Scalar.ofBool b := by cases b <;> decide
      refine ⟨ns ++ [Scalar.ofBool b], by simp, ?_, ?_, ?_⟩
      · simpa [or_imp, forall_and] using ⟨hn, hp⟩
      · rw [hb]
        exact ElemType.add_accumulator (d := .bool) trivial ns
      · rw [hb, List.sum_append, List.sum_singleton]
        exact ElemType.cast_add_element (d := .bool) trivial (fun _ => List.sum_nonneg hn)
          fun _ => hp
  store := by
    rintro k hk x y ⟨ns, rfl, hn, rfl, rfl⟩
    exact ElemType.cast_accumulator (d := .bool) trivial (fun n hm _ => hn n hm) fun _ => by omega

theorem exists_lockstep (d : ElemType) :
    ∃ R, Lockstep Scalar.arithmetic d (2 ^ 63) (fun z => d ≠ .object → z.IsElement d) R := by
  by_cases hd : d = .object
  · subst hd
    have h := lockstep_object (2 ^ 63)
    exact ⟨_, h.start, fun k hk x y z hr _ => h.step k hk x y z hr trivial, h.store⟩
  · by_cases hb : d = .bool
    · subst hb
      have h := lockstep_bool
      exact ⟨_, h.start, fun k hk x y z hr hz => h.step k hk x y z hr (hz hd), h.store⟩
    · have h := lockstep_fixed (2 ^ 63) hd hb
      exact ⟨_, h.start, fun k hk x y z hr hz => h.step k hk x y z hr (hz hd), h.store⟩

end

theorem Scalar.tells : Scalar.arithmetic.Tells where
  literalZero := rfl
  store d x hx := by
    by_cases hd : d = .object
    · subst hd
      exact hx
    · exact Scalar.fault?_cast hd

theorem Scalar.lasting : Scalar.arithmetic.Lasting .object where
  add x y hx := by
    cases x with
    | failed e => exact hx
    | bool | int | float32 | float64 | plain => exact absurd rfl hx
  store x hx := hx

/-- The same result, or a sum or a product that fails in both. -/
def Same {β : Type} (r r' : Except Error β) : Prop :=
  r = r' ∨ ∃ e e', r = .error e ∧ r' = .error e' ∧ e.isArithmetic = true ∧
    e'.isArithmetic = true

theorem Same.bind {β γ : Type} {r r' : Except Error β} {f f' : β → Except Error γ}
    (h : Same r r') (hf : ∀ b, r = .ok b → Same (f b) (f' b)) : Same (r >>= f) (r' >>= f') := by
  rcases h with rfl | ⟨e, e', rfl, rfl, he, he'⟩
  · cases r with
    | error e => exact .inl rfl
    | ok b => exact hf b rfl
  · exact .inr ⟨e, e', rfl, rfl, he, he'⟩

theorem Tensor.IsArray.get {t : Tensor Scalar} (h : t.IsArray) (missing : Scalar) {ns : List Nat}
    (hn : ns ∈ tuples t.shape) : (t.get missing ns).IsElement t.type := by
  apply h.elements
  rw [Tensor.toList_data missing h.full]
  exact List.mem_map_of_mem hn

theorem Tensor.IsArray.each_computed {t : Tensor Scalar} (h : t.IsArray) : t.Each Scalar.Computed :=
  each_of_isArray h fun _ hx => Scalar.computed_of_fault? hx.fault?

theorem Tensor.IsArray.each_fixed {t : Tensor Scalar} (h : t.IsArray) (ht : t.type ≠ .object) :
    t.Each Scalar.IsFixed :=
  each_of_isArray h fun _ hx => .inl (hx.elemType ht ▸ ht)

section

variable {ts : List (Tensor Scalar)} (b : Block) (sizes : Assignment) (d : ElemType) (shape : Shape)

theorem isArithmetic_of_failure (ha : ∀ t ∈ ts, t.IsArray) {e : Error}
    (he : (b.fill Scalar.arithmetic ts sizes (Scalar.arithmetic.blank d shape)).failure = some e) :
    e.isArithmetic = true := by
  have hstart :=
    Store.each_start Scalar.closed_computed
      (Tensor.each_fill d shape (Scalar.closed_computed.zero d))
  have hrun :=
    b.run_closed Scalar.closed_computed (fun t ht => (ha t ht).each_computed) sizes .start hstart
  obtain ⟨x, hx, hf⟩ := hrun.failure e he
  exact hx e hf

theorem failure_of_fixed (ha : ∀ t ∈ ts, t.IsArray) (hfix : ∀ t ∈ ts, t.type ≠ .object) :
    (b.fill Scalar.arithmetic ts sizes (Scalar.arithmetic.blank d shape)).failure = none := by
  have hstart :=
    Store.each_start Scalar.closed_fixed (Tensor.each_fill d shape (Scalar.closed_fixed.zero d))
  have hrun := b.run_closed Scalar.closed_fixed (fun t ht => (ha t ht).each_fixed (hfix t ht))
    sizes .start hstart
  by_contra hne
  obtain ⟨e, he⟩ := Option.ne_none_iff_exists'.mp hne
  obtain ⟨x, hx, hf⟩ := hrun.failure e he
  exact Option.some_ne_none e (hf.symm.trans hx.fault?)

section

variable {b sizes d shape}
  (hn : (b.fill Scalar.arithmetic ts sizes (Scalar.arithmetic.blank d shape)).failure = none)

include hn

theorem each_of_failure :
    (b.fill Scalar.arithmetic ts sizes (Scalar.arithmetic.blank d shape)).result.Each
      fun x => x.fault? = none := by
  have hz : (Scalar.zero d).fault? = none := Scalar.tells.store d _ rfl
  have hstart : (Store.start Scalar.arithmetic (Scalar.arithmetic.blank d shape)).Clean
      Scalar.arithmetic :=
    fun _ => ⟨rfl, Tensor.each_fill d shape hz⟩
  exact (b.run_clean Scalar.tells ts sizes .start hstart hn).2

theorem isArray_fill :
    (b.fill Scalar.arithmetic ts sizes (Scalar.arithmetic.blank d shape)).result.IsArray := by
  have hlike := b.run_alike Scalar.arithmetic ts sizes .start
    (.start Scalar.arithmetic (Scalar.arithmetic.blank d shape))
  have htype : (b.fill Scalar.arithmetic ts sizes (Scalar.arithmetic.blank d shape)).result.type =
      d := hlike.type
  refine ⟨hlike.isFull (Tensor.isFull_fill d shape _), ?_⟩
  rw [htype]
  by_cases hd : d = .object
  · subst hd
    exact fun x hx => .object (each_of_failure hn x hx)
  · exact b.run_stored ts sizes .start (fun x => Scalar.isElement_cast hd x)
      (Tensor.each_fill d shape (Scalar.isElement_cast hd _))

end

end

section

variable {s : Subscripts} {left right : Group} {row shared column : Label}
  (hp : MatrixProduct s left right row shared column) {x y : Tensor Scalar} (hx : x.IsArray)
  (hy : y.IsArray) {sizes : Assignment} (hxs : x.shape = left.map sizes)
  (hys : y.shape = right.map sizes)

include hp hx hy hxs hys

theorem MatrixProduct.isElement_product {b : Assignment} (hb : b.Below sizes s.axes)
    (hd : x.type.promote y.type ≠ .object) :
    (product Scalar.arithmetic [x, y] b s.accesses).IsElement (x.type.promote y.type) := by
  have hl : left.map b ∈ tuples x.shape := by
    rw [hxs, map_mem_tuples]
    intro l hl
    exact hb l (s.mem_axes.mpr ⟨left, by simp [hp.inputs], hl⟩)
  have hr : right.map b ∈ tuples y.shape := by
    rw [hys, map_mem_tuples]
    intro l hl
    exact hb l (s.mem_axes.mpr ⟨right, by simp [hp.inputs], hl⟩)
  rw [hp.accesses_eq]
  exact (hx.get _ hl).mul (hy.get _ hr) hd

theorem MatrixProduct.same_outcome (hn : s.output.Nodup) (hlim : sizes shared ≤ 2 ^ 63) :
    Same ((nest [row, shared] (matrixCell s.output ⟨0, left⟩ ⟨1, right⟩ column)).fill
      Scalar.arithmetic [x, y] sizes
        (Scalar.arithmetic.blank (x.type.promote y.type) (s.output.map sizes))).outcome
      ((reductionBody s).fill Scalar.arithmetic [x, y] sizes
        (Scalar.arithmetic.blank (x.type.promote y.type) (s.output.map sizes))).outcome := by
  have ha : ∀ t ∈ [x, y], t.IsArray := by simp [hx, hy]
  obtain ⟨R, hl⟩ := exists_lockstep (x.type.promote y.type)
  have hres := hp.interchange hl hlim
    (fun b hb hd => hp.isElement_product hx hy hxs hys hb hd) hn .start
    (.start Scalar.arithmetic (Scalar.arithmetic.blank (x.type.promote y.type)
      (s.output.map sizes))) rfl
  by_cases hd : x.type.promote y.type = .object
  · rw [hd] at hres ⊢
    have hfull := Tensor.isFull_fill .object (s.output.map sizes) (Scalar.zero .object)
    cases hm : ((nest [row, shared] (matrixCell s.output ⟨0, left⟩ ⟨1, right⟩ column)).fill
      Scalar.arithmetic [x, y]
        sizes (Scalar.arithmetic.blank .object (s.output.map sizes))).failure with
    | none =>
      have hclean := each_of_failure hm
      rw [Block.fill, hres] at hclean
      have hr := failure_reductionBody Scalar.lasting rfl rfl hfull rfl hclean rfl
      left
      exact ((Store.outcome_of_none hm).trans (congrArg Except.ok hres)).trans
        (Store.outcome_of_none hr).symm
    | some e =>
      cases hr : ((reductionBody s).fill Scalar.arithmetic [x, y] sizes
          (Scalar.arithmetic.blank .object (s.output.map sizes))).failure with
      | none =>
        have hclean := each_of_failure hr
        rw [Block.fill, ← hres] at hclean
        have hm' := hp.failure_body Scalar.lasting rfl rfl hfull rfl hclean rfl
        exact absurd (hm.symm.trans hm') (Option.some_ne_none e)
      | some e' =>
        right
        exact ⟨e, e', Store.outcome_of_some hm, Store.outcome_of_some hr,
          isArithmetic_of_failure _ _ _ _ ha hm, isArithmetic_of_failure _ _ _ _ ha hr⟩
  · obtain ⟨hxo, hyo⟩ := not_or.mp (mt ElemType.promote_eq_object.mpr hd)
    have hfix : ∀ t ∈ [x, y], t.type ≠ .object := by simp [hxo, hyo]
    left
    rw [Store.outcome_of_none (failure_of_fixed _ _ _ _ ha hfix),
      Store.outcome_of_none (failure_of_fixed _ _ _ _ ha hfix)]
    exact congrArg Except.ok hres

end

structure Tensor.IsSized (t : Tensor Scalar) : Prop where
  array : t.IsArray
  word : ∀ n ∈ t.shape, n < 2 ^ 63

section

variable {s : Subscripts} (hs : s.Validated) {ts : List (Tensor Scalar)}

include hs

theorem isSized_of_perform {special : Bool} (hl : ts.length = s.inputs.length) {t : Tensor Scalar}
    (h : s.perform Scalar.arithmetic special ts = .ok t) : t.IsSized := by
  have hlen : (ts.map Tensor.shape).length = s.inputs.length := by rw [List.length_map, hl]
  rcases labelSizes_cases hlen with ⟨-, -, σ, hσ⟩ | ⟨r, hr, -⟩
  · have hsh := eq_map_of_zip hlen fun q hq => (hσ q hq).symm
    obtain ⟨b, hb⟩ := exists_kernelBody s.canonical special
    by_cases hfits : Fits (.common (ts.map Tensor.type)) (s.output.map σ)
    · rw [perform_of_fits Scalar.arithmetic hs hsh hb hfits] at h
      have hlike := b.run_alike Scalar.arithmetic ts (σ ∘ writtenLabel s.labels) .start
        (.start Scalar.arithmetic (Scalar.arithmetic.blank (.common (ts.map Tensor.type))
          (s.output.map σ)))
      cases hf : (b.fill Scalar.arithmetic ts (σ ∘ writtenLabel s.labels)
          (Scalar.arithmetic.blank (.common (ts.map Tensor.type)) (s.output.map σ))).failure with
      | some e => cases h.symm.trans (Store.outcome_of_some hf)
      | none =>
        obtain rfl := Except.ok.inj (h.symm.trans (Store.outcome_of_none hf))
        refine ⟨isArray_fill hf, ?_⟩
        rw [Block.fill, hlike.shape]
        exact hfits.size_lt
    · obtain ⟨e, -, he⟩ := perform_of_not_fits Scalar.arithmetic hs hsh hfits
      cases h.symm.trans (he special)
  · cases h.symm.trans (perform_of_report hs special hl hr)

/-- A kernel gives the same result, whether or not special cases are made. -/
theorem perform_same (ha : ∀ t ∈ ts, t.IsSized) (hl : ts.length = s.inputs.length) :
    Same (s.perform Scalar.arithmetic true ts) (s.perform Scalar.arithmetic false ts) := by
  have hlen : (ts.map Tensor.shape).length = s.inputs.length := by rw [List.length_map, hl]
  rcases labelSizes_cases hlen with ⟨-, -, σ, hσ⟩ | ⟨r, hr, -⟩
  · have hsh := eq_map_of_zip hlen fun q hq => (hσ q hq).symm
    have hgeneral : kernelBody s.canonical (s.canonical.kind false) =
        .ok (reductionBody s.canonical) := rfl
    by_cases hfits : Fits (.common (ts.map Tensor.type)) (s.output.map σ)
    · rcases kernelBody_kind s.canonical true with hred | ⟨hm, hk⟩
      · rw [perform_of_fits Scalar.arithmetic hs hsh hred hfits,
          perform_of_fits Scalar.arithmetic hs hsh hgeneral hfits]
        exact .inl rfl
      · obtain ⟨left, right, row, shared, column, hp⟩ := matrixProduct_of_isMatrixProduct hm
        have hbody := hp.body
        have hkind : kernelBody s.canonical (s.canonical.kind true) =
            matrixProductBody s.canonical := by
          rw [hk]
          rfl
        rw [perform_of_fits Scalar.arithmetic hs hsh (hkind.trans hbody) hfits,
          perform_of_fits Scalar.arithmetic hs hsh hgeneral hfits]
        -- A matrix product has two operands.
        have hcanon := shapes_canonical hs hsh
        rw [hp.inputs] at hcanon
        obtain ⟨x, y, rfl⟩ : ∃ x y, ts = [x, y] :=
          List.length_eq_two.mp (by simpa using congrArg List.length hcanon)
        obtain ⟨hx, hy⟩ : x.IsSized ∧ y.IsSized := by simpa using ha
        obtain ⟨hxs, hys⟩ : x.shape = left.map (σ ∘ writtenLabel s.labels) ∧
            y.shape = right.map (σ ∘ writtenLabel s.labels) := by simpa using hcanon
        have hshared : (σ ∘ writtenLabel s.labels) shared < 2 ^ 63 := by
          apply hx.word
          rw [hxs]
          exact List.mem_map_of_mem (hp.left_perm.mem_iff.mpr (by simp))
        have htype : ElemType.common ([x, y].map Tensor.type) = x.type.promote y.type :=
          ElemType.common_pair _ _
        rw [htype, ← Subscripts.map_output_canonical hs]
        exact hp.same_outcome hx.array hy.array hxs hys hs.canonical.output_nodup hshared.le
    · obtain ⟨e, -, he⟩ := perform_of_not_fits Scalar.arithmetic hs hsh hfits
      rw [he, he]
      exact .inl rfl
  · rw [perform_of_report hs true hl hr, perform_of_report hs false hl hr]
    exact .inl rfl

end

theorem runSteps_same {output : Group} {n : Nat} {live : List NamedTensor} {steps : List Step}
    (h : Contracts output n live steps) (hf : Fresh n live)
    (hv : ∀ s ∈ steps, s.subscripts.Validated) {φ : NamedTensor → Tensor Scalar}
    (hφ : ∀ t ∈ live, (φ t).IsSized) :
    Same (runSteps Scalar.arithmetic true φ steps)
      (runSteps Scalar.arithmetic false φ steps) := by
  induction h generalizing φ with
  | done => exact .inl rfl
  | @step n live rest left right steps live_perm tail ih =>
    have hf' := hf.perm live_perm
    have hφ' : ∀ t ∈ [left, right] ++ rest, (φ t).IsSized :=
      fun t ht => hφ t (live_perm.mem_iff.mpr ht)
    have hvalid := hv _ List.mem_cons_self
    have hlen : [φ left, φ right].length =
        (stepOf output n left right rest).subscripts.inputs.length := rfl
    have hpair : ∀ t ∈ [φ left, φ right], t.IsSized := by
      rw [List.forall_mem_cons, List.forall_mem_singleton]
      exact ⟨hφ' left (by simp), hφ' right (by simp)⟩
    rw [runSteps, runSteps, stepOf_left, stepOf_right]
    refine (perform_same hvalid hpair hlen).bind fun t ht => ?_
    apply ih hf'.step fun s hs => hv s (List.mem_cons_of_mem _ hs)
    exact forall_update (hf'.notMem_rest output) (isSized_of_perform hvalid hlen ht)
      fun u hu => hφ' u (List.mem_append_right _ hu)

theorem Path.value_same {p : Path} (hs : p.subscripts.Validated) (hr : p.Reaches)
    {ts : List (Tensor Scalar)} (hl : p.subscripts.inputs.length = ts.length)
    (ha : ∀ t ∈ ts, t.IsSized) :
    Same (p.value Scalar.arithmetic true ts) (p.value Scalar.arithmetic false ts) := by
  rcases hr with ⟨hn, -⟩ | ⟨hn, hcon⟩
  · rw [Path.value_of_nil _ _ _ hn, Path.value_of_nil _ _ _ hn]
    exact perform_same hs ha hl.symm
  · have hφ := forall_operandAt Scalar.arithmetic hl ha
    have h := runSteps_same hcon (fresh_operandTensors p.subscripts 1) (validated_steps hs hcon) hφ
    rw [Path.value_of_ne _ _ _ hn, Path.value_of_ne _ _ _ hn]
    exact h.bind fun ψ _ => .inl rfl

theorem Path.object_of_isArithmetic {p : Path} {special : Bool} (hs : p.subscripts.Validated)
    (hr : p.Reaches) {ts : List (Tensor Scalar)} (hl : p.subscripts.inputs.length = ts.length)
    (ha : ∀ t ∈ ts, t.IsArray) {e : Error}
    (he : p.value Scalar.arithmetic special ts = .error e) (hk : e.isArithmetic = true) :
    ElemType.object ∈ ts.map Tensor.type := by
  rcases Path.value_cases special hs hr hl ha with ⟨t, hok, -⟩ | ⟨r, hrep, -⟩ | ⟨e',
    he', hf⟩
  · cases he.symm.trans hok
  · cases he.symm.trans hrep
    cases hk
  · cases he.symm.trans he'
    cases hf with
    | array kind => rcases kind with rfl | rfl <;> cases hk
    | element _ object => exact object

/-- Whether special cases are made cannot be seen from results. Only if elements are objects whose
sums or products fail may the failure that comes first be another one. -/
theorem einsum_specialCases {settings : Settings} {c : Config} (hn : settings.normalize = .ok c)
    (ha : c.kernelPrefix.toList.all (·.toNat < 0x80) = true) {special general : Session}
    (hs : special.Reachable { c with specialCases := true })
    (hg : general.Reachable { c with specialCases := false }) {text : String} {e : Expression}
    (hp : parse text = .ok e) {operands : List Operand} (hc : e.check operands.length = .ok ())
    {ts : List (Tensor Scalar)} (ht : operands.mapM Operand.tensor = .ok ts)
    (hts : ∀ t ∈ ts, t.IsSized) :
    (special.einsum text operands).1 = (general.einsum text operands).1 ∨
      ElemType.object ∈ ts.map Tensor.type ∧
        ∃ err err', (special.einsum text operands).1 = .error err ∧
          (general.einsum text operands).1 = .error err' ∧
          err.isArithmetic = true ∧ err'.isArithmetic = true := by
  have hu := isUsablePrefix_of_normalize hn
  have hv := validated_of_parse hp hc
  have hlen : e.subscripts.inputs.length = ts.length := by
    have := (check_eq_ok hc).1
    rw [length_of_mapM ht]
    omega
  obtain ⟨path, hplan, hsub, hreach⟩ := Path.plan_reaches hv (inputs_of_parse hp).1 c
  rw [hs.einsum_eq_value hu ha hp hc ht hplan, hg.einsum_eq_value hu ha hp hc ht hplan]
  rw [← hsub] at hv hlen
  rcases Path.value_same hv hreach hlen hts with heq | ⟨err, err', herr, herr', hk, hk'⟩
  · exact .inl heq
  · have hobject :=
      Path.object_of_isArithmetic hv hreach hlen (fun t ht => (hts t ht).array) herr hk
    exact .inr ⟨hobject, err, err', herr, herr', hk, hk'⟩

theorem einsum_specialCases_of_mixed :
    let e : Expression := ⟨⟨[['i', 'j'], ['j', 'k']], ['k', 'i']⟩, true, some "ij,jk->ki"⟩
    let ts : List (Tensor Scalar) :=
      [.fill .float32 [2, 3] (.float32 0.1), .fill (.int ⟨true, .w16⟩) [3, 4]
        (.int ⟨true, .w16⟩ 300)]
    let special : Session := { config := { specialCases := true } }
    let general : Session := { config := { specialCases := false } }
    parse "ij,jk->ki" = .ok e ∧ e.subscripts.kind true = .matrixProduct ∧
      (∀ t ∈ ts, t.IsSized) ∧
      (special.einsum "ij,jk->ki" (ts.map .array)).1 =
        (general.einsum "ij,jk->ki" (ts.map .array)).1 := by
  intro e ts special general
  have hp : parse "ij,jk->ki" = .ok e := rfl
  have hc : e.check (ts.map Operand.array).length = .ok () := rfl
  have hts : ∀ t ∈ ts, t.IsSized := by
    rw [List.forall_mem_cons, List.forall_mem_singleton]
    exact ⟨⟨Tensor.isArray_fill _ (.float32 0.1), by decide⟩,
      ⟨Tensor.isArray_fill _ (.int _ 300 rfl), by decide⟩⟩
  refine ⟨hp, by decide, hts, ?_⟩
  have hs : special.Reachable { specialCases := true } := .start 0
  have hg : general.Reachable { specialCases := false } := .start 0
  have h := einsum_specialCases normalize_default (by decide) hs hg hp hc (mapM_tensor_array ts) hts
  exact h.resolve_right fun h => absurd h.1 (by simp [ts, Tensor.fill])

end Einsum
