import Einsum.Proofs.Attribution
import Einsum.Proofs.History
import Einsum.Proofs.Normal
import Einsum.Proofs.SpecialCases

namespace Einsum

/-- What becomes of a result whose shape is known: there is an array of that shape, unless it cannot
be allocated or one of its elements, which are objects then, cannot be computed. -/
inductive Delivered (types : List ElemType) (shape : Shape) : Except Error (Tensor Scalar) → Prop
  | value {t : Tensor Scalar} (fits : Fits (.common types) shape) (type : t.type = .common types)
      (shaped : t.shape = shape) : Delivered types shape (.ok t)
  | refused {e : Error} (huge : ¬ Fits (.common types) shape) (kind : e = .arrayTooBig ∨
      e = .sizeTooLarge) : Delivered types shape (.error e)
  | element {e : Error} (fits : Fits (.common types) shape) (object : ElemType.object ∈ types)
      (kind : e.isArithmetic = true) : Delivered types shape (.error e)

theorem not_delivered_report {types : List ElemType} {shape : Shape} {r : Report} :
    ¬ Delivered types shape (.error (.report r)) := by
  intro h
  cases h with
  | refused _ kind => rcases kind with h | h <;> cases h
  | element _ _ kind => cases kind

theorem perform_delivered {s : Subscripts} (hs : s.Validated) (special : Bool)
    {ts : List (Tensor Scalar)} (ha : ∀ t ∈ ts, t.IsArray) {σ : Assignment}
    (hsh : ts.map Tensor.shape = s.inputs.map fun g => g.map σ) :
    Delivered (ts.map Tensor.type) (s.output.map σ) (s.perform Scalar.arithmetic special ts) := by
  by_cases hfits : Fits (.common (ts.map Tensor.type)) (s.output.map σ)
  · obtain ⟨b, hb⟩ := exists_kernelBody s.canonical special
    rw [perform_of_fits Scalar.arithmetic hs hsh hb hfits]
    have hlike := b.run_alike Scalar.arithmetic ts (σ ∘ writtenLabel s.labels) .start
      (.start Scalar.arithmetic (Scalar.arithmetic.blank (.common (ts.map Tensor.type))
        (s.output.map σ)))
    cases hf : (b.fill Scalar.arithmetic ts (σ ∘ writtenLabel s.labels)
        (Scalar.arithmetic.blank (.common (ts.map Tensor.type)) (s.output.map σ))).failure with
    | none =>
      rw [Store.outcome_of_none hf]
      exact .value hfits hlike.type hlike.shape
    | some e =>
      rw [Store.outcome_of_some hf]
      refine .element hfits ?_ (isArithmetic_of_failure b _ _ _ ha hf)
      by_contra hobject
      have hnone := failure_of_fixed b (σ ∘ writtenLabel s.labels) (.common (ts.map Tensor.type))
        (s.output.map σ) ha fun t ht he => hobject (he ▸ List.mem_map_of_mem ht)
      cases hf.symm.trans hnone
  · obtain ⟨e, hk, he⟩ := perform_of_not_fits Scalar.arithmetic hs hsh hfits
    rw [he]
    exact .refused hfits hk

/-- With one or two operands a path is a single kernel, called on the operands as they are given. -/
theorem Path.value_of_few {α : Type} (arith : Arithmetic α) (special : Bool) {s : Subscripts}
    (hs : s.Validated) (hne : s.inputs ≠ []) (hk : s.inputs.length ≤ 2) {c : Config} {p : Path}
    (hp : plan s c = .ok p) {ts : List (Tensor α)} (hl : s.inputs.length = ts.length) :
    p.value arith special ts = s.perform arith special ts := by
  obtain ⟨q, hq, rfl, hreach⟩ := plan_reaches hs hne c
  cases hp.symm.trans hq
  rcases hreach with ⟨hnil, -⟩ | ⟨hsteps, hcon⟩
  · exact value_of_nil arith special ts hnil
  · have hlen := length_of_contracts hcon
    have hpos := List.length_pos_of_ne_nil hsteps
    obtain ⟨step, hstep, hreads⟩ := steps_of_two hs (by omega) hp
    have hresult : step.result = finalTensor p.subscripts.output := by
      obtain ⟨rs, hresults, hnames⟩ := hcon.results hsteps
      rw [hstep] at hresults hnames
      have hnil : rs = [] := List.map_eq_nil_iff.mp hnames
      rw [hnil] at hresults
      exact (List.cons.inj hresults).1
    have hsub : step.subscripts = p.subscripts := by
      have hlabels : step.reads.map NamedTensor.labels = p.subscripts.inputs := by
        rw [hreads, labels_operandTensors]
      exact congrArg₂ Subscripts.mk hlabels (congrArg NamedTensor.labels hresult)
    have hts : step.reads.map (operandAt arith p.subscripts ts) = ts := by
      rw [hreads, map_operandAt arith hl]
    change [operandAt arith p.subscripts ts step.left, operandAt arith p.subscripts ts step.right] =
      ts at hts
    rw [value_of_ne arith special ts hsteps, hstep, runSteps, hsub, hts, hresult]
    cases p.subscripts.perform arith special ts with
    | error e => rfl
    | ok t => rw [ok_bind, runSteps, ok_bind, Function.update_self]

section

variable {settings : Settings} {c : Config} (hn : settings.normalize = .ok c)
  (hu : Text.isNormal c.kernelPrefix.toList = true) {session : Session} (hs : session.Reachable c)
  {text : String} {e : Expression} (hp : parse text = .ok e) {operands : List Operand}
  (hc : e.check operands.length = .ok ()) {ts : List (Tensor Scalar)}
  (hts : operands.mapM Operand.tensor = .ok ts)

include hn hu hs hp hc hts

theorem Session.Reachable.einsum_eq_value_of_normal {path : Path}
    (hplan : Path.plan e.subscripts c = .ok path) :
    (session.einsum text operands).1 = path.value Scalar.arithmetic c.specialCases ts := by
  obtain ⟨hfaithful, rfl⟩ := hs.faithful
  obtain ⟨p, pool, -, hfor, -, -, hcomp⟩ :=
    (Pool.sound_bare 0).compile_of_checked hp hc session.config
  have hkernels := hfor.compileKernels_eq hp hc (isUsablePrefix_of_normalize hn)
  rw [if_pos hu] at hkernels
  obtain rfl := Except.ok.inj (hfor.path.symm.trans hplan)
  rw [hfaithful.einsum_eq, hcomp, hkernels]
  exact hfor.call_eq_value hp hc hts

/-- An expression on one or two operands reports on their shapes as finding out the sizes does, and
if the sizes are found out it delivers a result of these sizes. -/
theorem einsum_reports_sizes (hk : operands.length ≤ 2) (ha : ∀ t ∈ ts, t.IsArray) :
    (∀ r, e.subscripts.labelSizes ((ts.map Tensor.shape).map givenShape) = .error (.report r) ↔
      (session.einsum text operands).1 = .error (.report r)) ∧
    ∀ known, e.subscripts.labelSizes ((ts.map Tensor.shape).map givenShape) = .ok known →
      ∃ shape : Shape, e.subscripts.output.map (fun l => known.lookup l) =
        (shape.map fun n : Nat => some (n : Int)) ∧
        Delivered (ts.map Tensor.type) shape (session.einsum text operands).1 := by
  have hv := validated_of_parse hp hc
  have hlen : e.subscripts.inputs.length = operands.length := by
    have := (check_eq_ok hc).1
    omega
  have htlen : e.subscripts.inputs.length = ts.length := hlen.trans (length_of_mapM hts).symm
  have hsizes : (ts.map Tensor.shape).length = e.subscripts.inputs.length := by
    rw [List.length_map, htlen]
  obtain ⟨path, hplan, -, -⟩ := Path.plan_reaches hv (inputs_of_parse hp).1 c
  rw [hs.einsum_eq_value_of_normal hn hu hp hc hts hplan,
    Path.value_of_few Scalar.arithmetic c.specialCases hv (inputs_of_parse hp).1
      (hlen.le.trans hk) hplan htlen]
  have hdeliver (known : Sizes Int)
      (hok : e.subscripts.labelSizes ((ts.map Tensor.shape).map givenShape) = .ok known) :
      ∃ shape : Shape, e.subscripts.output.map (fun l => known.lookup l) =
        (shape.map fun n : Nat => some (n : Int)) ∧
        Delivered (ts.map Tensor.type) shape
          (e.subscripts.perform Scalar.arithmetic c.specialCases ts) := by
    obtain ⟨σ, hsh, hknown⟩ := labelSizes_eq_ok hsizes hok
    refine ⟨e.subscripts.output.map σ, ?_, perform_delivered hv c.specialCases ha hsh⟩
    rw [List.map_map]
    exact List.map_congr_left fun l hl => hknown l (hv.output_subset l hl)
  refine ⟨fun r => ⟨perform_of_report hv c.specialCases htlen.symm, fun h => ?_⟩, hdeliver⟩
  rcases labelSizes_cases hsizes with ⟨known, hok, -⟩ | ⟨r', hr, -⟩
  · obtain ⟨shape, -, hd⟩ := hdeliver _ hok
    exact absurd (h ▸ hd) not_delivered_report
  · rw [perform_of_report hv c.specialCases htlen.symm hr] at h
    rw [hr, Error.report.inj (Except.error.inj h)]

end

theorem einsum_reports_sizes_of_transposed :
    let e : Expression := ⟨⟨[['i', 'j'], ['k', 'j']], ['k', 'i']⟩, true, some "ij,kj->ki"⟩
    let x : Tensor Scalar := .fill (.int int64) [2, 3] (.int int64 7)
    let y : Shape → Tensor Scalar := fun shape => .fill .float32 shape (.float32 0.1)
    let s : Session := (({} : Session).einsum "ij,kj->ki" ([x, y [4, 3]].map .array)).2
    parse "ij,kj->ki" = .ok e ∧ s.Reachable {} ∧
      (s.einsum "ij,kj->ki" ([x, y [4, 5]].map .array)).1 =
        .error (.report { fault := .size 'j' (operandName 1) 1 3 5 }) ∧
      ∃ t, (s.einsum "ij,kj->ki" ([x, y [4, 3]].map .array)).1 = .ok t ∧ t.shape = [4, 2] := by
  intro e x y s
  have hp : parse "ij,kj->ki" = .ok e := rfl
  have hs : s.Reachable {} := .einsum (.start 0) _ _
  have hu : Text.isNormal ({} : Config).kernelPrefix.toList = true := by decide
  have ha (shape : Shape) : ∀ t ∈ [x, y shape], t.IsArray := by
    rw [List.forall_mem_cons, List.forall_mem_singleton]
    exact ⟨Tensor.isArray_fill _ (.int _ 7 rfl), Tensor.isArray_fill _ (.float32 0.1)⟩
  have h (shape : Shape) := einsum_reports_sizes normalize_default hu hs hp rfl
    (mapM_tensor_array [x, y shape]) (le_refl 2) (ha shape)
  refine ⟨hp, hs, ((h [4, 5]).1 _).mp rfl, ?_⟩
  obtain ⟨shape, hshape, hd⟩ := (h [4, 3]).2 [('i', 2), ('j', 3), ('k', 4)] rfl
  have hinj : Function.Injective fun n : Nat => some (n : Int) :=
    fun m n h => Int.ofNat.inj (Option.some.inj h)
  have he : [4, 2] = shape := List.map_injective_iff.mpr hinj hshape
  generalize (s.einsum "ij,kj->ki" ([x, y [4, 3]].map .array)).1 = r at hd ⊢
  subst he
  cases hd with
  | @value t fits type shaped => exact ⟨t, rfl, shaped⟩
  | refused huge => exact absurd (by decide) huge
  | element _ object => exact absurd object (by simp [x, y, Tensor.fill])

/-- An empty result has sizes that are known, but no array can be made of them. -/
theorem exists_result_refused :
    let e : Expression :=
      ⟨⟨[['a', 'z'], ['b', 'z']], ['a', 'b', 'z']⟩, true, some "az,bz->abz"⟩
    let ts : List (Tensor Scalar) :=
      [[2 ^ 40, 0], [2 ^ 40, 0]].map fun shape => .fill (.int int64) shape (.int int64 0)
    parse "az,bz->abz" = .ok e ∧ (∀ t ∈ ts, t.IsArray) ∧
      e.subscripts.labelSizes ((ts.map Tensor.shape).map givenShape) =
        .ok [('a', 2 ^ 40), ('z', 0), ('b', 2 ^ 40)] ∧
        (({} : Session).einsum "az,bz->abz" (ts.map .array)).1 = .error .arrayTooBig := by
  intro e ts
  have hp : parse "az,bz->abz" = .ok e := rfl
  have hc : e.check (ts.map Operand.array).length = .ok () := rfl
  have hs : ({} : Session).Reachable {} := .start 0
  have hv : e.subscripts.Validated := by decide
  have ha : ∀ t ∈ ts, t.IsArray := by
    intro t ht
    obtain ⟨shape, -, rfl⟩ := List.mem_map.mp ht
    exact Tensor.isArray_fill shape (.int _ 0 rfl)
  refine ⟨hp, ha, rfl, ?_⟩
  obtain ⟨path, hplan, -, -⟩ := Path.plan_reaches hv (List.cons_ne_nil _ _) {}
  obtain ⟨b, hb⟩ := exists_kernelBody e.subscripts.canonical true
  have hshape : shapeOf (.int int64) [2 ^ 40, 2 ^ 40, 0] = .error .arrayTooBig := by decide
  rw [hs.einsum_eq_value_of_normal normalize_default (by decide) hp hc (mapM_tensor_array ts) hplan,
    Path.value_of_few Scalar.arithmetic true hv (List.cons_ne_nil _ _) (le_refl 2) hplan rfl,
    perform_of_shapes Scalar.arithmetic hv (σ := fun l => if l = 'z' then 0 else 2 ^ 40) rfl hb,
    zeros]
  exact congrArg (fun r => r >>= _ >>= _) hshape

end Einsum
