import Einsum.Proofs.Session
import Einsum.Proofs.Shape

namespace Einsum

def Mismatches {β : Type} (r : Except Error β) : Prop :=
  ∃ report : Report, r = .error (.report report) ∧ report.kind = .shapeMismatch

theorem not_mismatches_ok {β : Type} (b : β) : ¬ Mismatches (.ok b : Except Error β) := by
  rintro ⟨r, hr, -⟩
  cases hr

theorem Report.Disagrees.kind {ps : List (Group × Shape)} {r : Report} (h : r.Disagrees ps) :
    r.kind = .shapeMismatch := by
  cases h <;> rfl

theorem Report.Disagrees.mismatches {β : Type} {ps : List (Group × Shape)} {r : Report}
    (h : r.Disagrees ps) :
    Mismatches (.error (.report r) : Except Error β) := ⟨r, rfl, h.kind⟩

/-- Sizes are found out, or it is reported why not, as the shapes agree or not. -/
theorem mismatches_labelSizes_iff {s : Subscripts} {shapes : List Shape}
    (hl : shapes.length = s.inputs.length) :
    Mismatches (s.labelSizes (shapes.map givenShape)) ↔ ¬ Agree (s.inputs.zip shapes) := by
  rcases labelSizes_cases hl with ⟨known, hok, ha⟩ | ⟨r, hr, hd⟩
  · rw [hok]
    exact iff_of_false (not_mismatches_ok _) (not_not_intro ha)
  · rw [hr]
    exact iff_of_true hd.mismatches hd.not_agree

theorem not_huge_of_fits {ps : List (Group × Shape)}
    (h : Fits .object ((axisSizes ps).map Prod.snd)) : ¬ Huge ps := by
  rintro ⟨axes, hn, hs, hf⟩
  exact hf (h.of_subset (List.Nodup.of_map _ hn) hs)

/-- A failure to allocate an array, or to compute an element of an array of objects. -/
inductive FailsBefore (ps : List (Group × Shape)) (types : List ElemType) : Error → Prop
  | array {e : Error} (kind : e = .arrayTooBig ∨ e = .sizeTooLarge) (huge : Huge ps) :
      FailsBefore ps types e
  | element {e : Error} (kind : e.isArithmetic = true) (object : ElemType.object ∈ types) :
      FailsBefore ps types e

theorem FailsBefore.not_mismatches {β : Type} {ps : List (Group × Shape)} {types : List ElemType}
    {e : Error} (h : FailsBefore ps types e) : ¬ Mismatches (.error e : Except Error β) := by
  rintro ⟨r, hr, -⟩
  cases hr
  cases h with
  | array kind => rcases kind with h | h <;> cases h
  | element kind => cases kind

theorem each_of_isArray {t : Tensor Scalar} (h : t.IsArray) {P : Scalar → Prop}
    (hP : ∀ x, Scalar.IsElement t.type x → P x) : t.Each P := fun x hx => hP x (h.elements x hx)

section

variable {p : Path} (special : Bool) (hs : p.subscripts.Validated) (hr : p.Reaches)
  {ts : List (Tensor Scalar)} (hl : p.subscripts.inputs.length = ts.length)
  (ha : ∀ t ∈ ts, t.IsArray)

include hs hr hl ha

theorem Path.value_cases :
    (∃ t, p.value Scalar.arithmetic special ts = .ok t ∧
      Agree (p.subscripts.inputs.zip (ts.map Tensor.shape))) ∨
    (∃ r, p.value Scalar.arithmetic special ts = .error (.report r) ∧
      r.Disagrees (p.subscripts.inputs.zip (ts.map Tensor.shape))) ∨
    ∃ e, p.value Scalar.arithmetic special ts = .error e ∧
      FailsBefore (p.subscripts.inputs.zip (ts.map Tensor.shape)) (ts.map Tensor.type) e := by
  by_cases ho : ElemType.object ∈ ts.map Tensor.type
  · have hc := Path.value_checked special Scalar.closed_computed hs hr hl fun t ht =>
      each_of_isArray (ha t ht) fun x hx => Scalar.computed_of_fault? hx.fault?
    generalize p.value Scalar.arithmetic special ts = r at hc ⊢
    cases hc with
    | value agree => exact .inl ⟨_, rfl, _, agree⟩
    | mismatch disagrees => exact .inr (.inl ⟨_, rfl, disagrees⟩)
    | failure fails =>
      refine .inr (.inr ⟨_, rfl, ?_⟩)
      cases fails with
      | refused kind huge => exact .array kind huge
      | element closed fault => exact .element (closed _ fault) ho
  · have hfixed : ∀ t ∈ ts, t.Each Scalar.IsFixed := by
      intro t ht
      have hne : t.type ≠ .object := fun he => ho (he ▸ List.mem_map_of_mem ht)
      exact each_of_isArray (ha t ht) fun x hx => .inl (hx.elemType hne ▸ hne)
    have hc := Path.value_checked special Scalar.closed_fixed hs hr hl hfixed
    generalize p.value Scalar.arithmetic special ts = r at hc ⊢
    cases hc with
    | value agree => exact .inl ⟨_, rfl, _, agree⟩
    | mismatch disagrees => exact .inr (.inl ⟨_, rfl, disagrees⟩)
    | failure fails =>
      cases fails with
      | refused kind huge => exact .inr (.inr ⟨_, rfl, .array kind huge⟩)
      | element closed fault =>
        exact absurd (closed.fault?.symm.trans fault).symm (Option.some_ne_none _)

end

/-- A program reports shapes that disagree as they are when all are looked at together, unless it
fails before it gets there, and it reports none that agree. The sizes in a report are those of axes
under its label. -/
theorem call_mismatches {c : Config} {session : Session} (hr : session.Reachable c) {text : String}
    {ts : List (Tensor Scalar)} {origin : Origin} {p : Program}
    (hc : (session.compile text ts.length origin).1 = .ok p) {e : Expression}
    (hp : parse text = .ok e) (ha : ∀ t ∈ ts, t.IsArray) :
    let axes := e.subscripts.inputs.zip (ts.map Tensor.shape)
    let sizes := e.subscripts.labelSizes ((ts.map Tensor.shape).map givenShape)
    let result := p.call (ts.map .array)
    (Mismatches result → Mismatches sizes) ∧
    (Mismatches sizes →
      Mismatches result ∨ ∃ err, result = .error err ∧
        FailsBefore axes (ts.map Tensor.type) err) ∧
    ∀ r l name axis expected actual, result = .error (.report r) →
      r.fault = .size l name axis expected actual →
        l ∈ e.subscripts.axes ∧ expected ≠ actual ∧ ∃ m n : Nat, (m : Int) = expected ∧
          (n : Int) = actual ∧ (l, m) ∈ axisSizes axes ∧ (l, n) ∈ axisSizes axes := by
  intro axes sizes result
  obtain ⟨hsound, rfl⟩ := hr.sound
  obtain ⟨e', hp', hcheck, hfor⟩ := hsound.isFor_of_compile hc
  obtain rfl := Except.ok.inj (hp.symm.trans hp')
  have hv := validated_of_parse hp hcheck
  have hlen : e.subscripts.inputs.length = ts.length := by
    have := (check_eq_ok hcheck).1
    omega
  obtain ⟨path, hplan, hsub, hreach⟩ :=
    Path.plan_reaches hv (inputs_of_parse hp).1 session.config
  obtain rfl := Except.ok.inj (hfor.path.symm.trans hplan)
  have hvalue : result = p.path.value Scalar.arithmetic session.config.specialCases ts := by
    refine hfor.call_eq_value hp ?_ (mapM_tensor_array ts)
    rwa [List.length_map]
  have hsizes : Mismatches sizes ↔ ¬ Agree axes :=
    mismatches_labelSizes_iff ((List.length_map _).trans hlen.symm)
  have hcases :=
    Path.value_cases session.config.specialCases (hsub ▸ hv) hreach (hsub ▸ hlen) ha
  rw [hsub, ← hvalue] at hcases
  rw [hsizes]
  rcases hcases with ⟨t, hok, hag⟩ | ⟨r, hrep, hd⟩ | ⟨err, herr, hf⟩
  · rw [hok]
    refine ⟨fun h => absurd h (not_mismatches_ok t), fun h => absurd hag h, ?_⟩
    rintro r l name axis expected actual ⟨⟩
  · rw [hrep]
    refine ⟨fun _ => hd.not_agree, fun _ => .inl hd.mismatches, ?_⟩
    rintro r l name axis expected actual ⟨⟩ hfault
    cases hd with
    | rank mem ne => cases hfault
    | @size l name axis m n hm hn ne =>
      cases hfault
      obtain ⟨q, hq, hz⟩ := mem_axisSizes.mp hm
      refine ⟨e.subscripts.mem_axes.mpr ⟨q.1, (List.of_mem_zip hq).1, (List.of_mem_zip hz).1⟩,
        ?_, m, n, rfl, rfl, hm, hn⟩
      exact fun h => ne (Int.ofNat.inj h)
  · rw [herr]
    refine ⟨fun h => absurd h hf.not_mismatches, fun _ => .inr ⟨err, rfl, hf⟩, ?_⟩
    rintro r l name axis expected actual ⟨⟩ hfault
    exact absurd ⟨r, rfl, congrArg Fault.kind hfault⟩ (hf.not_mismatches (β := Unit))

theorem Tensor.isArray_fill {d : ElemType} (shape : Shape) {x : Scalar} (hx : x.IsElement d) :
    (Tensor.fill d shape x).IsArray :=
  ⟨Tensor.isFull_fill d shape x, Tensor.each_fill d shape hx⟩

theorem call_mismatches_of_chain :
    let e : Expression :=
      ⟨⟨[['a', 'b'], ['b', 'c'], ['c', 'd']], ['a', 'd']⟩, true, some "ab,bc,cd->ad"⟩
    let d := ElemType.int ⟨false, .w8⟩
    let ts : List (Tensor Scalar) :=
      [[2, 3], [3, 4], [5, 2]].map fun shape => .fill d shape (.int ⟨false, .w8⟩ 7)
    parse "ab,bc,cd->ad" = .ok e ∧ (∀ t ∈ ts, t.IsArray) ∧
      ∃ p, (({} : Session).compile "ab,bc,cd->ad" ts.length {}).1 = .ok p ∧
        Mismatches (p.call (ts.map .array)) := by
  intro e d ts
  have hp : parse "ab,bc,cd->ad" = .ok e := rfl
  have hr : ({} : Session).Reachable {} := .start 0
  have ha : ∀ t ∈ ts, t.IsArray := by
    intro t ht
    obtain ⟨shape, -, rfl⟩ := List.mem_map.mp ht
    exact Tensor.isArray_fill shape (.int _ 7 rfl)
  obtain ⟨p, s', hcomp, -⟩ :=
    hr.sound.1.compile_eq_ok (n := ts.length) normalize_default (by decide) hp rfl {}
  have hc : (({} : Session).compile "ab,bc,cd->ad" ts.length {}).1 = .ok p :=
    congrArg Prod.fst hcomp
  refine ⟨hp, ha, p, hc, ?_⟩
  obtain ⟨-, h, -⟩ := call_mismatches hr hc hp ha
  rcases h ⟨_, rfl, rfl⟩ with h | ⟨err, -, hf⟩
  · exact h
  · cases hf with
    | array kind huge => exact absurd huge (not_huge_of_fits (by decide))
    | element kind object => exact absurd object (by decide)

/-- The sizes of `c` differ, but the first contraction asks for an array that is too big. -/
theorem exists_mismatch_unseen :
    let e : Expression :=
      ⟨⟨[['a', 'z'], ['b', 'z'], ['c', 'c']], ['a', 'b']⟩, true, some "az,bz,cc->ab"⟩
    let d := ElemType.int ⟨true, .w64⟩
    let ts : List (Tensor Scalar) :=
      [[2 ^ 40, 0], [2 ^ 40, 0], [1, 2]].map fun shape => .fill d shape (.int ⟨true, .w64⟩ 0)
    parse "az,bz,cc->ab" = .ok e ∧ (∀ t ∈ ts, t.IsArray) ∧
      Mismatches (e.subscripts.labelSizes ((ts.map Tensor.shape).map givenShape)) ∧
        (({} : Session).einsum "az,bz,cc->ab" (ts.map .array)).1 = .error .arrayTooBig := by
  intro e d ts
  have hp : parse "az,bz,cc->ab" = .ok e := rfl
  have ha : ∀ t ∈ ts, t.IsArray := by
    intro t ht
    obtain ⟨shape, -, rfl⟩ := List.mem_map.mp ht
    exact Tensor.isArray_fill shape (.int _ 0 rfl)
  refine ⟨hp, ha, ⟨_, rfl, rfl⟩, ?_⟩
  have hcheck : e.check (ts.map Operand.array).length = .ok () := rfl
  obtain ⟨p, s', hcomp, hfor⟩ :=
    (Session.sound_start {} 0).compile_eq_ok normalize_default (by decide) hp hcheck {}
  have hhead : (Path.plan e.subscripts {}).toOption.map (fun path => path.steps.head?) = some (some
      ⟨⟨"arg0", ['a', 'z'], some 0⟩, ⟨"arg1", ['b', 'z'], some 1⟩, ['z'],
        ⟨"out1", ['a', 'b'], none⟩⟩) := by decide
  rw [hfor.path] at hhead
  let u : Subscripts := ⟨[['a', 'z'], ['b', 'z']], ['a', 'b']⟩
  have hu : u.Validated := by decide
  obtain ⟨b, hb⟩ := exists_kernelBody u.canonical true
  have hshape : shapeOf d [2 ^ 40, 2 ^ 40] = .error .arrayTooBig := by decide
  have hperf : u.perform Scalar.arithmetic true [ts[0], ts[1]] = .error .arrayTooBig := by
    rw [perform_of_shapes Scalar.arithmetic hu (σ := fun l => if l = 'z' then 0 else 2 ^ 40) rfl
      hb, zeros]
    exact congrArg (fun r => r >>= _ >>= _) hshape
  rw [Session.einsum, hcomp]
  dsimp only
  rw [hfor.call_eq_value hp hcheck (mapM_tensor_array ts)]
  refine Path.value_of_head (Option.some.inj hhead) ?_
  rw [hfor.subscripts hp hcheck]
  exact hperf

end Einsum
