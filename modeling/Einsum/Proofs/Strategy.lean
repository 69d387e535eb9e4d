import Einsum.Proofs.Mixed
import Einsum.Proofs.Session

namespace Einsum

/-- Operands of types for truth values and integers, each of its own type, that agree on the sizes
of labels. -/
def Subscripts.FitWhole (s : Subscripts) (σ : Assignment) (ts : List (Tensor Scalar)) : Prop :=
  List.Forall₂ (fun g t => t.IsOf t.type ∧ t.type ∈ ElemType.wholes ∧ t.shape = g.map σ)
    s.inputs ts

def Path.numbers (p : Path) (ts : List (Tensor Scalar)) (t : NamedTensor) : Numbers :=
  .of t.labels (operandAt Scalar.arithmetic p.subscripts ts t)

def Path.Satisfies (p : Path) (Q : Subscripts → Numbers → Prop) (σ : Assignment)
    (ts : List (Tensor Scalar)) : Prop :=
  if p.steps = [] then
    Q p.subscripts ⟨.common (ts.map Tensor.type), p.subscripts.sumOfProducts σ ts⟩
  else StepsSatisfy Q σ (p.numbers ts) p.steps

def Path.Runs (p : Path) (σ : Assignment) (ts : List (Tensor Scalar)) : Prop :=
  p.Satisfies (Allocates σ) σ ts ∧ p.Satisfies (Tallies σ) σ ts

instance (p : Path) (Q : Subscripts → Numbers → Prop) [∀ s r, Decidable (Q s r)]
    (σ : Assignment) (ts : List (Tensor Scalar)) : Decidable (p.Satisfies Q σ ts) :=
  inferInstanceAs (Decidable (ite (p.steps = []) _ _))

section

variable {σ : Assignment} {Q : Subscripts → Numbers → Prop} {I : Numbers → Prop}
  {output : Group} {n : Nat} {live : List NamedTensor} {steps : List Step}
  {ψ : NamedTensor → Numbers}

theorem stepsSatisfy_of_contracts (hI : ∀ s x y, I x → I y → I (x.contract σ s y))
    (h : Contracts output n live steps) (hψ : ∀ t ∈ live, I (ψ t))
    (hQ : ∀ s ∈ steps, ∀ r, I r → Q s.subscripts r) : StepsSatisfy Q σ ψ steps := by
  induction h generalizing ψ with
  | done => trivial
  | @step n live rest left right steps live_perm tail ih =>
    have hψ' : ∀ t ∈ left :: right :: rest, I (ψ t) :=
      fun t ht => hψ t (live_perm.mem_iff.mpr ht)
    rw [List.forall_mem_cons, List.forall_mem_cons] at hψ'
    obtain ⟨hl, hr, hrest⟩ := hψ'
    rw [List.forall_mem_cons] at hQ
    have hnew := hI (stepOf output n left right rest).subscripts _ _ hl hr
    refine ⟨hQ.1 _ hnew, ih ?_ hQ.2⟩
    rw [List.forall_mem_cons, Function.update_self]
    refine ⟨hnew, fun t ht => ?_⟩
    -- Names need not be fresh here: whatever was replaced has the property too.
    by_cases he : t = (stepOf output n left right rest).result
    · rw [he, Function.update_self]
      exact hnew
    · rw [Function.update_of_ne he]
      exact hrest t ht

variable {p : Path} {ts : List (Tensor Scalar)} {w : IntType}

theorem Path.satisfies_of_reaches (hI : ∀ s x y, I x → I y → I (x.contract σ s y))
    (h : p.Reaches) (hone : I ⟨.common (ts.map Tensor.type), p.subscripts.sumOfProducts σ ts⟩)
    (hop : ∀ t ∈ p.subscripts.operandTensors, I (p.numbers ts t))
    (hQ : ∀ s ∈ p.kernelSubscripts, ∀ r, I r → Q s r) : p.Satisfies Q σ ts := by
  rcases h with ⟨hn, -⟩ | ⟨hn, hc⟩
  · rw [Path.Satisfies, if_pos hn]
    exact hQ _ (by simp [kernelSubscripts_of_eq hn]) _ hone
  · rw [Path.Satisfies, if_neg hn]
    refine stepsSatisfy_of_contracts hI hc hop fun s hs r hr => hQ _ ?_ r hr
    rw [kernelSubscripts_of_ne hn]
    exact List.mem_map_of_mem hs

theorem Path.types_operands (h : p.subscripts.inputs.length = ts.length) :
    (p.subscripts.operandTensors.map fun t => (p.numbers ts t).type) = ts.map Tensor.type := by
  have hmap := congrArg (List.map Tensor.type) (map_operandAt Scalar.arithmetic h)
  rwa [List.map_map] at hmap

section

variable (hfit : p.subscripts.FitWhole σ ts) (hw : ElemType.common (ts.map Tensor.type) = .int w)

include hfit hw

theorem Path.join_operands :
    ElemType.join (p.subscripts.operandTensors.map fun t => (p.numbers ts t).type) = .int w ∧
      ∀ t ∈ p.subscripts.operandTensors, (p.numbers ts t).type.Within w := by
  have hwhole : ∀ d ∈ p.subscripts.operandTensors.map fun t => (p.numbers ts t).type,
      d ∈ ElemType.wholes :=
    List.forall_mem_map.mpr fun t ht => (forall_operandTensors Scalar.arithmetic hfit t ht).2.1
  have hne : ts.map Tensor.type ≠ [] := by
    intro hn
    rw [hn] at hw
    cases hw
  rw [← Path.types_operands hfit.length_eq] at hw hne
  rw [ElemType.common_eq_join hwhole hne] at hw
  exact ⟨hw, List.forall_mem_map.mp (ElemType.within_of_join hwhole hw)⟩

theorem Path.stands_operands (kept : Prop) : ∀ t ∈ p.subscripts.operandTensors,
    Stands w kept σ t.labels (operandAt Scalar.arithmetic p.subscripts ts t) (p.numbers ts t) := by
  intro t ht
  obtain ⟨harray, -, hshape⟩ := forall_operandTensors Scalar.arithmetic hfit t ht
  exact {
    type := rfl
    within := (Path.join_operands hfit hw).2 t ht
    shape := hshape
    full := harray.full
    depends := dependsOn_operandFactor _ _
    element := fun a ha => harray.get (hshape ▸ map_mem_tuples.mpr ha)
    coincide := fun _ a _ => .refl _ }

end

theorem Stands.isEinsum {kept : Prop} {s : Subscripts} {r : Tensor Scalar}
    (h : Stands w kept σ s.output r
      ⟨.int w, sumOver σ s.summed (productAt (List.zipWith operandFactor s.inputs ts))⟩)
    (hk : kept) : IsEinsum (.int w) σ s ts r where
  type := h.type
  shape := h.shape
  full := h.full
  get a ha := by
    have hwrap : w.wrap (r.get (.exact 0) (s.output.map a)).toInt =
        w.wrap (s.sumOfProducts σ ts a) :=
      (h.coincide hk a ha).wrap_eq.trans (congrArg w.wrap sumOver_operandFactor)
    rw [← ElemType.element_toInt (h.element a ha), ElemType.element, hwrap]
    rfl

/-- A path carried out on whole operands, each of its own type, gives an array of the type that all
combine to. It is the defined result if no step loses a number. -/
theorem Path.value_whole (hs : p.subscripts.Validated) (h : p.Reaches)
    (hfit : p.subscripts.FitWhole σ ts) (hw : ElemType.common (ts.map Tensor.type) = .int w)
    (ht : p.Satisfies (Tallies σ) σ ts) (special : Bool) :
    Yields (p.Satisfies (Allocates σ) σ ts)
      (fun r => r.type = .int w ∧ r.shape = p.subscripts.output.map σ ∧
        (p.Satisfies (Keeps w σ) σ ts → IsEinsum (.int w) σ p.subscripts ts r))
      (p.value Scalar.arithmetic special ts) := by
  rcases h with ⟨hn, hone⟩ | ⟨hn, hc⟩
  · obtain ⟨g, hg⟩ := List.length_eq_one_iff.mp hone
    obtain ⟨x, rfl⟩ := List.length_eq_one_iff.mp (hfit.length_eq.symm.trans hone)
    have htype : x.type = .int w := (ElemType.common_replicate x.type 0).symm.trans hw
    have hfit' : p.subscripts.Fit (.int w) σ [x] := by
      rw [Subscripts.FitWhole, hg, List.forall₂_cons, htype] at hfit
      rw [Subscripts.Fit, hg]
      exact .cons ⟨hfit.1.1, hfit.1.2.2⟩ .nil
    have hcount : ElemType.int w = .bool → (p.subscripts.summed.map σ).prod < 2 ^ 64 := by
      intro hb
      cases hb
    have hy := perform_isEinsum (d := .int w) hs trivial hfit' (List.cons_ne_nil _ _) hcount special
    rw [Path.Satisfies, if_pos hn, Allocates, hw, Path.value_of_nil _ _ _ hn]
    exact hy.imp Iff.rfl fun r hr => ⟨hr.type, hr.shape, fun _ => hr⟩
  · rw [Path.Satisfies, if_neg hn] at ht
    have hrun := runSteps_stands hc (validated_steps hs hc) (fresh_operandTensors p.subscripts 1)
      (covers_operandTensors hs) (Path.stands_operands hfit hw (p.Satisfies (Keeps w σ) σ ts))
      (Path.join_operands hfit hw).1 ht (fun hk => by rwa [Path.Satisfies, if_neg hn] at hk) special
    rw [Path.Satisfies, if_neg hn, Path.value_of_ne _ _ _ hn]
    refine (hrun.bind (q := True) fun φ hφ => ?_).imp (and_iff_left trivial) fun _ h => h
    have hvalue : liveValue σ p.subscripts.output
        (standing (operandAt Scalar.arithmetic p.subscripts ts) (p.numbers ts))
        p.subscripts.operandTensors =
          sumOver σ p.subscripts.summed
            (productAt (List.zipWith operandFactor p.subscripts.inputs ts)) :=
      liveValue_operands hfit.length_eq
    rw [hvalue] at hφ
    exact Yields.ok ⟨hφ.type, hφ.shape, hφ.isEinsum⟩

theorem Path.runs_of_fits (hs : p.subscripts.Validated) (h : p.Reaches)
    (hfit : p.subscripts.FitWhole σ ts) (hw : ElemType.common (ts.map Tensor.type) = .int w)
    (hf : Fits (.int w) (p.subscripts.labels.map σ)) :
    p.Runs σ ts := by
  have hpromote : ∀ (s : Subscripts) (x y : Numbers), x.type.Within w → y.type.Within w →
      (x.contract σ s y).type.Within w := fun _ _ _ hx hy => hx.promote hy
  have hone : ElemType.Within w (.common (ts.map Tensor.type)) := by
    rw [hw]
    exact ElemType.promote_self _
  have hop := (Path.join_operands hfit hw).2
  have hbool : Fits .bool (p.subscripts.labels.map σ) := hf.of_byteCount_le (byteCount_pos _).1
  constructor
  · refine Path.satisfies_of_reaches hpromote h hone hop fun s hm r hr => ?_
    exact ((h.fits hs hf).1 s hm).of_byteCount_le hr.byteCount_le
  · exact Path.satisfies_of_reaches hpromote h hone hop fun s hm r hr hb =>
      (h.fits hs hbool).2 rfl s hm

theorem Path.keeps_of_uniform (h : p.Reaches) (hlen : p.subscripts.inputs.length = ts.length)
    (hw : ElemType.common (ts.map Tensor.type) = .int w) (ht : ∀ t ∈ ts, t.type = .int w) :
    p.Satisfies (Keeps w σ) σ ts := by
  refine Path.satisfies_of_reaches (I := fun r => r.type = .int w) (fun s x y hx hy => ?_) h hw
    (forall_operandAt Scalar.arithmetic hlen ht) fun s _ r hr => .inl hr
  rw [Numbers.contract, hx, hy, ElemType.promote_self]

end

/-- In whichever order operands of whole types are contracted, the result has the type that all of
them combine to. Two strategies give the same elements if neither loses a number in a narrower type
on the way. -/
theorem einsum_strategies {settings : Settings} {c : Config} (hn : settings.normalize = .ok c)
    (ha : c.kernelPrefix.toList.all (·.toNat < 0x80) = true) {greedy exhaustive : Session}
    (hg : greedy.Reachable { c with strategy := .greedy })
    (hx : exhaustive.Reachable { c with strategy := .exhaustive }) {text : String} {e : Expression}
    (hp : parse text = .ok e) {operands : List Operand} (hc : e.check operands.length = .ok ())
    {ts : List (Tensor Scalar)} (ht : operands.mapM Operand.tensor = .ok ts) {σ : Assignment}
    (hfit : e.subscripts.FitWhole σ ts) {w : IntType}
    (hw : ElemType.common (ts.map Tensor.type) = .int w) :
    ∃ p q, Path.plan e.subscripts { c with strategy := .greedy } = .ok p ∧
      Path.plan e.subscripts { c with strategy := .exhaustive } = .ok q ∧
      (Fits (.int w) (e.subscripts.labels.map σ) → p.Runs σ ts ∧ q.Runs σ ts) ∧
      ((∀ t ∈ ts, t.type = .int w) → p.Satisfies (Keeps w σ) σ ts ∧
        q.Satisfies (Keeps w σ) σ ts) ∧
      (p.Runs σ ts → q.Runs σ ts → ∃ r r', (greedy.einsum text operands).1 = .ok r ∧
        (exhaustive.einsum text operands).1 = .ok r' ∧ r.type = .int w ∧ r'.type = .int w ∧
        r.shape = e.subscripts.output.map σ ∧ r'.shape = e.subscripts.output.map σ ∧
        (p.Satisfies (Keeps w σ) σ ts → IsEinsum (.int w) σ e.subscripts ts r) ∧
        (q.Satisfies (Keeps w σ) σ ts → IsEinsum (.int w) σ e.subscripts ts r') ∧
        (p.Satisfies (Keeps w σ) σ ts → q.Satisfies (Keeps w σ) σ ts → r = r')) := by
  have hu := isUsablePrefix_of_normalize hn
  have hv := validated_of_parse hp hc
  have hne := (inputs_of_parse hp).1
  obtain ⟨p, hplan, hsub, hreach⟩ := Path.plan_reaches hv hne { c with strategy := .greedy }
  obtain ⟨q, hplan', hsub', hreach'⟩ :=
    Path.plan_reaches hv hne { c with strategy := .exhaustive }
  refine ⟨p, q, hplan, hplan', fun hf => ?_, fun huniform => ?_, fun hrun hrun' => ?_⟩
  · exact ⟨Path.runs_of_fits (hsub ▸ hv) hreach (hsub ▸ hfit) hw (hsub ▸ hf),
      Path.runs_of_fits (hsub' ▸ hv) hreach' (hsub' ▸ hfit) hw (hsub' ▸ hf)⟩
  · exact ⟨Path.keeps_of_uniform hreach (hsub ▸ hfit.length_eq) hw huniform,
      Path.keeps_of_uniform hreach' (hsub' ▸ hfit.length_eq) hw huniform⟩
  · rw [hg.einsum_eq_value hu ha hp hc ht hplan, hx.einsum_eq_value hu ha hp hc ht hplan']
    obtain ⟨r, hr, htype, hshape, hk⟩ :=
      (Path.value_whole (hsub ▸ hv) hreach (hsub ▸ hfit) hw hrun.2 c.specialCases).success
        hrun.1
    obtain ⟨r', hr', htype', hshape', hk'⟩ :=
      (Path.value_whole (hsub' ▸ hv) hreach' (hsub' ▸ hfit) hw hrun'.2 c.specialCases).success
        hrun'.1
    rw [hsub] at hshape hk
    rw [hsub'] at hshape' hk'
    exact ⟨r, r', hr, hr', htype, htype', hshape, hshape', hk, hk',
      fun h h' => (hk h).unique (hk' h') hv.output_nodup⟩

theorem einsum_strategies_of_narrow :
    let e : Expression := ⟨⟨[['a', 'b', 'c'], ['a'], ['b']], []⟩, true, some "abc,a,b->"⟩
    let narrow : ElemType := .int ⟨true, .w8⟩
    let ts : List (Tensor Scalar) :=
      [.fill (.int int64) [1, 1, 1] (.int int64 3), .fill narrow [1] (narrow.element 11),
        .fill narrow [1] (narrow.element 11)]
    let greedy : Session := { config := { strategy := .greedy } }
    let exhaustive : Session := { config := { strategy := .exhaustive } }
    parse "abc,a,b->" = .ok e ∧ e.subscripts.FitWhole (fun _ => 1) ts ∧
      ElemType.common (ts.map Tensor.type) = .int int64 ∧
      ∃ r, (greedy.einsum "abc,a,b->" (ts.map .array)).1 = .ok r ∧
        (exhaustive.einsum "abc,a,b->" (ts.map .array)).1 = .ok r ∧
          IsEinsum (.int int64) (fun _ => 1) e.subscripts ts r := by
  intro e narrow ts greedy exhaustive
  have hp : parse "abc,a,b->" = .ok e := rfl
  have hc : e.check (ts.map Operand.array).length = .ok () := rfl
  have hfit : e.subscripts.FitWhole (fun _ => 1) ts :=
    .cons ⟨Tensor.isOf_fill (d := .int int64) trivial _ 3, by decide, rfl⟩
      (.cons ⟨Tensor.isOf_fill (d := narrow) trivial _ 11, by decide, rfl⟩
        (.cons ⟨Tensor.isOf_fill (d := narrow) trivial _ 11, by decide, rfl⟩ .nil))
  have hw : ElemType.common (ts.map Tensor.type) = .int int64 := by decide
  have hg : greedy.Reachable { strategy := .greedy } := .start 0
  have hx : exhaustive.Reachable { strategy := .exhaustive } := .start 0
  obtain ⟨p, q, hplan, hplan', hruns, -, hy⟩ :=
    einsum_strategies normalize_default (by decide) hg hx hp hc (mapM_tensor_array ts) hfit hw
  obtain ⟨hrun, hrun'⟩ := hruns (by decide)
  obtain ⟨r, r', hr, hr', -, -, -, -, hk, -, heq⟩ := hy hrun hrun'
  have hkeep : (Path.plan e.subscripts { strategy := .greedy }).toOption.map
      (fun p => decide (p.Satisfies (Keeps int64 fun _ => 1) (fun _ => 1) ts)) = some true := by
        decide +kernel
  have hkeep' : (Path.plan e.subscripts { strategy := .exhaustive }).toOption.map
      (fun p => decide (p.Satisfies (Keeps int64 fun _ => 1) (fun _ => 1) ts)) = some true := by
        decide +kernel
  rw [hplan] at hkeep
  rw [hplan'] at hkeep'
  have hk₁ := of_decide_eq_true (Option.some.inj hkeep)
  have hk₂ := of_decide_eq_true (Option.some.inj hkeep')
  exact ⟨hp, hfit, hw, r, hr, heq hk₁ hk₂ ▸ hr', hk hk₁⟩

/-- A product that is first taken in the narrower type is reduced there. -/
theorem exists_strategies_differ :
    let e : Expression := ⟨⟨[['a', 'b', 'c'], ['a'], ['b']], []⟩, true, some "abc,a,b->"⟩
    let narrow : ElemType := .int ⟨true, .w8⟩
    let ts : List (Tensor Scalar) :=
      [.fill (.int int64) [1, 1, 1] (.int int64 1), .fill narrow [1] (narrow.element 100),
        .fill narrow [1] (narrow.element 100)]
    let greedy : Session := { config := { strategy := .greedy } }
    let exhaustive : Session := { config := { strategy := .exhaustive } }
    parse "abc,a,b->" = .ok e ∧ ElemType.common (ts.map Tensor.type) = .int int64 ∧
      ∃ r r', (greedy.einsum "abc,a,b->" (ts.map .array)).1 = .ok r ∧
        r.data.toList.map Scalar.toInt = [10000] ∧
        (exhaustive.einsum "abc,a,b->" (ts.map .array)).1 = .ok r' ∧
          r'.data.toList.map Scalar.toInt = [16] := by
  intro e narrow ts greedy exhaustive
  have hp : parse "abc,a,b->" = .ok e := rfl
  have hc : e.check (ts.map Operand.array).length = .ok () := rfl
  have hvalue (c : Config) (s : Session) (hs : s.Reachable c)
      (hu : c.kernelPrefix = Config.kernelPrefix {})
      (ns : List Int) (h : (Path.plan e.subscripts c).toOption.bind (fun p =>
        (p.value Scalar.arithmetic c.specialCases ts).toOption.map fun r => r.data.toList.map
          Scalar.toInt) = some ns) :
      ∃ r, (s.einsum "abc,a,b->" (ts.map .array)).1 = .ok r ∧
        r.data.toList.map Scalar.toInt = ns := by
    obtain ⟨p, hplan, -, -⟩ :=
      Path.plan_reaches (validated_of_parse hp hc) (inputs_of_parse hp).1 c
    rw [hs.einsum_eq_value (by rw [hu]; decide) (by rw [hu]; decide) hp hc
      (mapM_tensor_array ts) hplan]
    rw [hplan] at h
    obtain ⟨r, hr, hns⟩ := Option.map_eq_some_iff.mp h
    cases hval : p.value Scalar.arithmetic c.specialCases ts with
    | error err =>
      rw [hval] at hr
      cases hr
    | ok t =>
      rw [hval] at hr
      exact ⟨r, congrArg _ (Option.some.inj hr), hns⟩
  obtain ⟨r, hr, hn⟩ :=
    hvalue { strategy := .greedy } greedy (.start 0) rfl [10000] (by decide +kernel)
  obtain ⟨r', hr', hn'⟩ :=
    hvalue { strategy := .exhaustive } exhaustive (.start 0) rfl [16] (by decide +kernel)
  exact ⟨hp, by decide, r, r', hr, hn, hr', hn'⟩

end Einsum
