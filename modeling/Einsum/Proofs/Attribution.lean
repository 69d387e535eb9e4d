import Einsum.Proofs.Mismatch

namespace Einsum

/-- A report names the operand at a position, and what it tells of its axes is so. -/
inductive Report.Blames (groups : List Group) (shapes : List Shape) (position : Nat) :
    Report → Prop
  | rank {g : Group} {ns : Shape} (group : groups[position]? = some g)
      (shape : shapes[position]? = some ns) (ne : ns.length ≠ g.length) :
      Blames groups shapes position { fault := .rank (operandName position) g g.length ns.length }
  | size {g : Group} {ns : Shape} {l : Label} {axis : Nat} {expected : Int} {actual : Nat}
      (group : groups[position]? = some g) (shape : shapes[position]? = some ns)
      (label : g[axis]? = some l) (size : ns[axis]? = some actual) (ne : expected ≠ actual) :
      Blames groups shapes position { fault := .size l (operandName position) axis expected actual }

def Fault.naming (name : String) : Fault → Fault
  | rank _ g expected actual => rank name g expected actual
  | size l _ axis expected actual => size l name axis expected actual
  | fault => fault

def Report.naming (name : String) (r : Report) : Report := { r with fault := r.fault.naming name }

theorem Report.Blames.naming {groups groups' : List Group} {shapes shapes' : List Shape} {i j : Nat}
    {r : Report} (h : r.Blames groups shapes i) (hg : groups'[j]? = groups[i]?)
    (hs : shapes'[j]? = shapes[i]?) :
    (r.naming (operandName j)).Blames groups' shapes' j := by
  cases h with
  | rank group shape ne => exact .rank (hg.trans group) (hs.trans shape) ne
  | size group shape label size ne => exact .size (hg.trans group) (hs.trans shape) label size ne

theorem learnAxes_reports {operand axis : Nat} {sizes : Sizes Int} {g : Group} {shape : Shape}
    {r : Report}
    (h : learnAxes operand axis sizes g (shape.map fun n : Nat => .ok (n : Int)) =
      .error (.report r)) :
    ∃ (i : Nat) (l : Label) (expected : Int) (actual : Nat), g[i]? = some l ∧
      shape[i]? = some actual ∧
      expected ≠ actual ∧
        r =
          { fault := .size l (operandName operand) ((axis + i : Nat) : Int) expected actual } := by
  induction g generalizing axis sizes shape with
  | nil => cases h
  | cons l g ih =>
    cases shape with
    | nil => cases h
    | cons n shape =>
      rw [List.map_cons, learnAxes, ok_bind] at h
      cases hl : learnAxis operand axis sizes l n with
      | ok sizes' =>
        rw [hl] at h
        obtain ⟨i, k, expected, actual, hk, hn, hne, rfl⟩ := ih h
        refine ⟨i + 1, k, expected, actual, hk, hn, hne, ?_⟩
        rw [Nat.add_right_comm, Nat.add_assoc]
      | error r' =>
        rw [hl] at h
        cases h
        rw [learnAxis] at hl
        split at hl
        · cases hl
        next m _ =>
          split at hl
          · cases hl
          next hne =>
            cases hl
            exact ⟨0, l, m, n, rfl, rfl, hne, rfl⟩

theorem learnOperands_blames {groups : List Group} {shapes : List Shape} (operand : Nat)
    {sizes : Sizes Int} {r : Report}
    (h : learnOperands operand sizes (groups.drop operand) ((shapes.drop operand).map givenShape) =
      .error (.report r)) :
    ∃ position, r.Blames groups shapes position := by
  generalize hgs : groups.drop operand = gs at h
  induction gs generalizing operand sizes with
  | nil => cases h
  | cons g gs ih =>
    cases hns : shapes.drop operand with
    | nil =>
      rw [hns] at h
      cases h
    | cons ns rest =>
      obtain ⟨hgroup, hgs'⟩ := getElem?_of_drop hgs
      obtain ⟨hshape, hns'⟩ := getElem?_of_drop hns
      rw [hns, List.map_cons, learnOperands_cons] at h
      by_cases hr : ns.length = g.length
      · rw [if_pos hr] at h
        cases hl : learnAxes operand 0 sizes g (ns.map fun n : Nat => .ok (n : Int)) with
        | ok sizes' =>
          rw [hl, ok_bind, ← hns'] at h
          exact ih (operand + 1) hgs' h
        | error e =>
          rw [hl] at h
          cases h
          obtain ⟨i, l, expected, actual, hi, hn, hne, rfl⟩ := learnAxes_reports hl
          rw [Nat.zero_add]
          exact ⟨operand, .size hgroup hshape hi hn hne⟩
      · rw [if_neg hr] at h
        cases h
        exact ⟨operand, .rank hgroup hshape hr⟩

/-- A kernel names its operands by their places. -/
theorem perform_blames {s : Subscripts} (hs : s.Validated) {special : Bool}
    {ts : List (Tensor Scalar)} (hl : ts.length = s.inputs.length)
    (ht : ∀ t ∈ ts, t.Each Scalar.Computed) {r : Report}
    (h : s.perform Scalar.arithmetic special ts = .error (.report r)) :
    ∃ position, r.Blames s.inputs (ts.map Tensor.shape) position := by
  have hlen : (ts.map Tensor.shape).length = s.inputs.length := by rw [List.length_map, hl]
  rcases labelSizes_cases hlen with ⟨-, -, hagree⟩ | ⟨r', hr, -⟩
  · have hc := perform_checked hs special Scalar.closed_computed hl ht
    rw [h] at hc
    cases hc with
    | mismatch disagrees => exact absurd hagree disagrees.not_agree
    | failure fails =>
      cases fails with
      | refused kind huge => rcases kind with he | he <;> cases he
      | element closed fault => cases closed _ fault
  · cases h.symm.trans (perform_of_report hs special hl hr)
    have hn : ¬ ((ts.map Tensor.shape).map givenShape).length ≠ s.inputs.length := by
      simpa using hl
    rw [Subscripts.labelSizes, if_neg hn] at hr
    exact learnOperands_blames 0 hr

/-- Where a tensor of a run comes from: it is an operand of the expression, or the result of a step,
which has an axis for each label. -/
inductive Tracked (s : Subscripts) (ts : List (Tensor Scalar)) (t : NamedTensor)
    (x : Tensor Scalar) : Prop
  | operand (q : Nat) (known : t.operand = some (q : Int)) (group : s.inputs[q]? = some t.labels)
      (tensor : ts[q]? = some x)
  | result (known : t.operand = none) (rank : x.shape.length = t.labels.length)

theorem tracked_operandAt {s : Subscripts} {ts : List (Tensor Scalar)}
    (hl : s.inputs.length = ts.length) :
    ∀ t ∈ s.operandTensors, Tracked s ts t (operandAt Scalar.arithmetic s ts t) := by
  intro t ht
  obtain ⟨q, hq, rfl⟩ := List.getElem_of_mem ht
  have hlt : q < s.inputs.length := by simpa [Subscripts.operandTensors] using hq
  have hx := congrArg (·[q]?) (map_operandAt Scalar.arithmetic hl)
  refine .operand q ?_ ?_ ?_
  · simp [Subscripts.operandTensors, operandTensor]
  · simp [Subscripts.operandTensors, operandTensor, hlt]
  · rw [← hx]
    simp [hq]

inductive ReportedIn (special : Bool) (φ : NamedTensor → Tensor Scalar) (r : Report)
    (place : Nat) (t : NamedTensor) (x : Tensor Scalar) : List Step → Prop
  | intro (before : List Step) {after : List Step} {step : Step}
      {ψ : NamedTensor → Tensor Scalar}
      (ran : runSteps Scalar.arithmetic special φ before = .ok ψ)
      (reads : step.reads[place]? = some t) (value : ψ t = x)
      (blames : r.Blames (step.reads.map NamedTensor.labels) (step.reads.map fun t => (ψ t).shape)
        place) :
      ReportedIn special φ r place t x (before ++ step :: after)

section

variable {special : Bool} {φ : NamedTensor → Tensor Scalar} {r : Report} {place : Nat}
  {t : NamedTensor} {x : Tensor Scalar}

theorem ReportedIn.cons {s : Step} {steps : List Step} {y : Tensor Scalar}
    (hy : s.subscripts.perform Scalar.arithmetic special [φ s.left, φ s.right] = .ok y)
    (h : ReportedIn special (Function.update φ s.result y) r place t x steps) :
    ReportedIn special φ r place t x (s :: steps) := by
  cases h with
  | @intro before after step ψ ran reads value blames =>
    refine .intro (s :: before) ?_ reads value blames
    rw [runSteps, hy, ok_bind, ran]

theorem ReportedIn.ne_nil {steps : List Step} (h : ReportedIn special φ r place t x steps) :
    steps ≠ [] := by
  cases h
  simp

variable {s : Subscripts} {ts : List (Tensor Scalar)} {steps : List Step}
  (hr : ReportedIn special φ r place t x steps) (h : Tracked s ts t x)

include hr h

/-- What is reported of an operand is so, under the name that it has in the expression. -/
theorem Tracked.blames {q : Nat} (hq : t.operand = some (q : Int)) :
    (r.naming (operandName q)).Blames s.inputs (ts.map Tensor.shape) q := by
  cases hr with
  | intro before ran reads value blames =>
    cases h with
    | operand q' known group tensor =>
      obtain rfl : q' = q := Int.ofNat.inj (Option.some.inj (known.symm.trans hq))
      refine blames.naming ?_ ?_
      · rw [group, List.getElem?_map, reads, Option.map_some]
      · rw [List.getElem?_map, tensor, List.getElem?_map, reads, Option.map_some,
          Option.map_some, value]
    | result known => cases known.symm.trans hq

theorem Tracked.size_of_none (hq : t.operand = none) :
    ∃ l axis expected actual, r.fault = .size l (operandName place) axis expected actual := by
  cases hr with
  | intro before ran reads value blames =>
    cases blames with
    | rank group shape ne =>
      rw [List.getElem?_map, reads] at group shape
      cases group
      cases shape
      subst value
      cases h with
      | operand q known => cases known.symm.trans hq
      | result known rank => exact absurd rank ne
    | size => exact ⟨_, _, _, _, rfl⟩

end

section

variable {s : Subscripts} {ts : List (Tensor Scalar)} {special : Bool}

section

variable {output : Group} {n : Nat} {left right : NamedTensor} {rest : List NamedTensor}
  (hv : (stepOf output n left right rest).subscripts.Validated) {φ : NamedTensor → Tensor Scalar}
  (hφ : ∀ t ∈ [left, right], (φ t).Each Scalar.Computed ∧ Tracked s ts t (φ t))

include hφ in
theorem each_reads : ∀ x ∈ [φ left, φ right], x.Each Scalar.Computed := by
  rw [List.forall_mem_cons, List.forall_mem_singleton]
  exact ⟨(hφ left (by simp)).1, (hφ right (by simp)).1⟩

include hv hφ

theorem stepOf_reported {r : Report} {steps : List Step}
    (h : (stepOf output n left right rest).subscripts.perform Scalar.arithmetic special
      [φ left, φ right] = .error (.report r)) :
    ∃ place t x, ReportedIn special φ r place t x (stepOf output n left right rest :: steps) ∧
      Tracked s ts t x := by
  obtain ⟨place, hb⟩ := perform_blames hv rfl (each_reads hφ) h
  have hlt : place < [left, right].length := by
    cases hb with
    | rank group | size group => exact (List.getElem?_eq_some_iff.mp group).1
  refine ⟨place, [left, right][place], _, .intro [] rfl (List.getElem?_eq_getElem hlt) rfl hb,
    ?_⟩
  exact (hφ _ (List.getElem_mem hlt)).2

theorem stepOf_tracked {x : Tensor Scalar}
    (h : (stepOf output n left right rest).subscripts.perform Scalar.arithmetic special
      [φ left, φ right] = .ok x) :
    x.Each Scalar.Computed ∧ Tracked s ts (stepOf output n left right rest).result x := by
  have hc := perform_checked hv special Scalar.closed_computed rfl (each_reads hφ)
  rw [h] at hc
  cases hc with
  | value agree holds =>
    refine ⟨holds.2, .result ?_ ?_⟩
    · rw [stepOf]
      split <;> rfl
    · rw [holds.1, List.length_map]
      rfl

end

/-- A run that ends in a report got to a step that it is on, with the tensors it had until then. -/
theorem runSteps_reported {output : Group} {n : Nat} {live : List NamedTensor} {steps : List Step}
    (h : Contracts output n live steps) (hf : Fresh n live)
    (hv : ∀ s ∈ steps, s.subscripts.Validated) {φ : NamedTensor → Tensor Scalar}
    (hφ : ∀ t ∈ live, (φ t).Each Scalar.Computed ∧ Tracked s ts t (φ t)) {r : Report}
    (he : runSteps Scalar.arithmetic special φ steps = .error (.report r)) :
    ∃ place t x, ReportedIn special φ r place t x steps ∧ Tracked s ts t x := by
  induction h generalizing φ with
  | done => cases he
  | @step n live rest left right steps live_perm tail ih =>
    have hf' := hf.perm live_perm
    have hφ' : ∀ t ∈ [left, right] ++ rest, (φ t).Each Scalar.Computed ∧
        Tracked s ts t (φ t) :=
      fun t ht => hφ t (live_perm.mem_iff.mpr ht)
    rw [List.forall_mem_append] at hφ'
    rw [List.forall_mem_cons] at hv
    rw [runSteps, stepOf_left, stepOf_right] at he
    cases hx : (stepOf output n left right rest).subscripts.perform Scalar.arithmetic special
      [φ left, φ right] with
    | error e =>
      rw [hx] at he
      cases he
      exact stepOf_reported hv.1 hφ'.1 hx
    | ok x =>
      rw [hx, ok_bind] at he
      have hnew := forall_update₂ (ψ := φ) (y := x)
        (P := fun t x _ => x.Each Scalar.Computed ∧ Tracked s ts t x)
        (hf'.notMem_rest output) (stepOf_tracked hv.1 hφ'.1 hx) hφ'.2
      obtain ⟨place, t, y, hr, ht⟩ := ih hf'.step hv.2 hnew he
      exact ⟨place, t, y, hr.cons hx, ht⟩

end

theorem Path.value_reported {p : Path} (hs : p.subscripts.Validated) (hr : p.Reaches)
    {special : Bool} {ts : List (Tensor Scalar)} (hl : p.subscripts.inputs.length = ts.length)
    (ht : ∀ t ∈ ts, t.Each Scalar.Computed) {r : Report}
    (h : p.value Scalar.arithmetic special ts = .error (.report r)) :
    (p.steps = [] ∧ ∃ q, r.Blames p.subscripts.inputs (ts.map Tensor.shape) q) ∨
      ∃ place t x, ReportedIn special (operandAt Scalar.arithmetic p.subscripts ts) r place
        t x p.steps ∧ Tracked p.subscripts ts t x := by
  rcases hr with ⟨hnil, -⟩ | ⟨hne, hcon⟩
  · rw [value_of_nil _ _ ts hnil] at h
    exact .inl ⟨hnil, perform_blames hs hl.symm ht h⟩
  · rw [value_of_ne _ _ ts hne] at h
    cases hrun : runSteps Scalar.arithmetic special (operandAt Scalar.arithmetic p.subscripts ts)
      p.steps with
    | ok φ =>
      rw [hrun] at h
      cases h
    | error e =>
      rw [hrun] at h
      cases h
      refine .inr (runSteps_reported hcon (fresh_operandTensors p.subscripts 1)
        (validated_steps hs hcon) ?_ hrun)
      exact fun t hm => ⟨forall_operandAt Scalar.arithmetic hl ht t hm,
        tracked_operandAt hl t hm⟩

theorem Path.Reaches.length_steps {p : Path} (h : p.Reaches) :
    p.steps.length + 1 = p.subscripts.inputs.length := by
  rcases h with ⟨hnil, hone⟩ | ⟨-, hcon⟩
  · rw [hnil, hone, List.length_nil]
  · exact Path.length_of_contracts hcon

theorem Path.steps_of_two {s : Subscripts} (hs : s.Validated) (hk : s.inputs.length = 2)
    {c : Config} {p : Path} (hp : plan s c = .ok p) :
    ∃ step, p.steps = [step] ∧ step.reads = s.operandTensors := by
  have hcovers := covers_operandTensors hs
  obtain ⟨inputs, output⟩ := s
  obtain ⟨g, g', rfl⟩ := List.length_eq_two.mp hk
  have hone : ¬ (Subscripts.mk [g, g'] output).inputs.length = 1 := by simp
  -- There is one pair to choose, whatever the strategy.
  have hchoose : chooseOrder ⟨[g, g'], output⟩ c = .ok [(0, 1)] := by
    rw [chooseOrder]
    split <;> rfl
  have h₀ : 0 < [operandTensor 0 g, operandTensor 1 g'].length := by simp
  have h₁ : 1 < [operandTensor 0 g, operandTensor 1 g'].length := by simp
  obtain ⟨perm, hsteps⟩ := stepsFrom_singleton (n := 1) h₀ h₁ rfl hcovers
  rw [plan, if_neg hone, hchoose] at hp
  have horder : ofOrder ⟨[g, g'], output⟩ [((0 : Nat), (1 : Nat))] = .ok p := hp
  have htensors : (Subscripts.mk [g, g'] output).operandTensors =
      [operandTensor 0 g, operandTensor 1 g'] := rfl
  rw [ofOrder, ofEntries, if_neg (by simp), htensors, List.map_singleton, hsteps] at horder
  cases horder
  exact ⟨_, rfl, rfl⟩

theorem ReportedIn.blames_of_two {special : Bool} {s : Subscripts} {ts : List (Tensor Scalar)}
    (hl : s.inputs.length = ts.length) {r : Report} {place : Nat} {t : NamedTensor}
    {x : Tensor Scalar} {step : Step} (hs : step.reads = s.operandTensors)
    (h : ReportedIn special (operandAt Scalar.arithmetic s ts) r place t x [step]) :
    r.Blames s.inputs (ts.map Tensor.shape) place := by
  generalize hsteps : [step] = steps at h
  cases h with
  | @intro before after step' ψ ran reads value blames =>
    rcases List.singleton_eq_append_iff.mp hsteps with ⟨rfl, hcons⟩ | ⟨-, hcons⟩
    · cases hcons
      cases ran
      have hshapes : s.operandTensors.map (Tensor.shape ∘ operandAt Scalar.arithmetic s ts) =
          ts.map Tensor.shape := by
        rw [← List.map_map, map_operandAt Scalar.arithmetic hl]
      rw [hs, labels_operandTensors] at blames
      exact hshapes ▸ blames
    · cases hcons

section

variable {α β : Type} {f : α → Except Error β} {as : List α}

theorem mem_of_mapM {bs : List β} (h : as.mapM f = .ok bs) :
    ∀ b ∈ bs, ∃ a ∈ as, f a = .ok b := by
  induction as generalizing bs with
  | nil =>
    cases h
    exact fun b hb => absurd hb List.not_mem_nil
  | cons a as ih =>
    rw [List.mapM_cons] at h
    obtain ⟨b, hb, h⟩ := bind_eq_ok h
    obtain ⟨cs, hcs, h⟩ := bind_eq_ok h
    cases h
    rw [List.forall_mem_cons]
    refine ⟨⟨a, List.mem_cons_self, hb⟩, fun c hc => ?_⟩
    obtain ⟨a', ha', hc⟩ := ih hcs c hc
    exact ⟨a', List.mem_cons_of_mem a ha', hc⟩

theorem mem_of_mapM_error {e : Error} (h : as.mapM f = .error e) :
    ∃ a ∈ as, f a = .error e := by
  induction as with
  | nil => cases h
  | cons a as ih =>
    rw [List.mapM_cons] at h
    cases ha : f a with
    | error e' =>
      rw [ha] at h
      cases h
      exact ⟨a, List.mem_cons_self, ha⟩
    | ok b =>
      rw [ha, ok_bind] at h
      cases has : as.mapM f with
      | error e' =>
        rw [has] at h
        cases h
        obtain ⟨a', ha', he⟩ := ih has
        exact ⟨a', List.mem_cons_of_mem a ha', he⟩
      | ok bs =>
        rw [has] at h
        cases h

end

theorem leavesType_ne_report (leaves : List Json) (r : Report) :
    leavesType leaves ≠ .error (.report r) := by
  intro h
  rw [leavesType] at h
  split at h
  · split at h <;> cases h
  · cases h

theorem Operand.tensor_ne_report (o : Operand) (r : Report) : o.tensor ≠ .error (.report r) := by
  intro h
  cases o with
  | array t => cases h
  | nested v =>
    rw [Operand.tensor, Tensor.ofNested] at h
    dsimp only at h
    split at h
    · split at h <;> cases h
    · cases hl : leavesType (levels maxAxes [v]).2 with
      | ok type =>
        rw [hl] at h
        cases h
      | error e =>
        rw [hl] at h
        cases h
        exact leavesType_ne_report _ r hl

theorem Operand.each_computed {o : Operand} {x : Tensor Scalar}
    (ha : ∀ t, o = .array t → t.IsArray) (hx : o.tensor = .ok x) : x.Each Scalar.Computed := by
  cases o with
  | array t =>
    cases hx
    exact each_of_isArray (ha x rfl) fun y hy => Scalar.computed_of_fault? hy.fault?
  | nested v =>
    rw [Operand.tensor, Tensor.ofNested] at hx
    dsimp only at hx
    split at hx
    · cases hx
    · cases hl : leavesType (levels maxAxes [v]).2 with
      | ok type =>
        rw [hl] at hx
        cases hx
        intro y hy
        obtain ⟨w, -, rfl⟩ := List.mem_map.mp hy
        exact Scalar.closed_computed.store _ _ (Scalar.computed_of_fault? rfl)
      | error e =>
        rw [hl] at hx
        cases hx

theorem tensors_of_report {p : Program} {operands : List Operand}
    (hl : operands.length = p.operandCount) {r : Report}
    (h : p.call operands = .error (.report r)) : ∃ ts, operands.mapM Operand.tensor = .ok ts := by
  cases hm : operands.mapM Operand.tensor with
  | ok ts => exact ⟨ts, rfl⟩
  | error e =>
    have harity : p.checkArity operands.length = .ok () := if_pos hl
    rw [Program.call, harity, hm] at h
    cases h
    obtain ⟨o, -, ho⟩ := mem_of_mapM_error hm
    exact absurd ho (o.tensor_ne_report r)

/-- Reports on shapes name an operand by its place in the step that fails. With one or two operands
it is the place where the caller has it. With more, what is told of an operand of the caller is so
under the name that it has there, and only sizes of intermediate results are reported. -/
theorem call_blames {c : Config} {session : Session} (hr : session.Reachable c) {text : String}
    {operands : List Operand} {origin : Origin} {p : Program}
    (hc : (session.compile text operands.length origin).1 = .ok p) {e : Expression}
    (hp : parse text = .ok e) (ha : ∀ t, .array t ∈ operands → t.IsArray) {r : Report}
    (h : p.call operands = .error (.report r)) :
    ∃ ts, operands.mapM Operand.tensor = .ok ts ∧
      (operands.length ≤ 2 → ∃ q, r.Blames e.subscripts.inputs (ts.map Tensor.shape) q) ∧
      (2 < operands.length → ∃ place t x,
        ReportedIn c.specialCases (operandAt Scalar.arithmetic e.subscripts ts) r place t x
          p.path.steps ∧
        (∀ q : Nat, t.operand = some (q : Int) →
          (r.naming (operandName q)).Blames e.subscripts.inputs (ts.map Tensor.shape) q) ∧
        (t.operand = none →
          ∃ l axis expected actual, r.fault =
            .size l (operandName place) axis expected actual)) := by
  obtain ⟨hsound, rfl⟩ := hr.sound
  obtain ⟨e', hp', hcheck, hfor⟩ := hsound.isFor_of_compile hc
  obtain rfl := Except.ok.inj (hp.symm.trans hp')
  have hv := validated_of_parse hp hcheck
  have hlen : e.subscripts.inputs.length = operands.length := by
    have := (check_eq_ok hcheck).1
    omega
  have hsub := hfor.subscripts hp hcheck
  have hreach := hfor.reaches hp hcheck
  have hcount : operands.length = p.operandCount := by
    rw [Program.operandCount, Program.subscripts, hsub, hlen]
  obtain ⟨ts, hts⟩ := tensors_of_report hcount h
  have heach : ∀ t ∈ ts, t.Each Scalar.Computed := by
    intro t ht
    obtain ⟨o, ho, hot⟩ := mem_of_mapM hts t ht
    exact Operand.each_computed (fun x hx => ha x (hx ▸ ho)) hot
  have htlen : e.subscripts.inputs.length = ts.length := by rw [hlen, length_of_mapM hts]
  rw [hfor.call_eq_value hp hcheck hts] at h
  have hcases := Path.value_reported (hsub ▸ hv) hreach (hsub ▸ htlen) heach h
  rw [hsub] at hcases
  have hsteps : p.path.steps.length + 1 = operands.length := by rw [hreach.length_steps, hsub, hlen]
  refine ⟨ts, hts, ?_⟩
  rcases hcases with ⟨hnil, hb⟩ | ⟨place, t, x, hrep, ht⟩
  · rw [hnil, List.length_nil] at hsteps
    exact ⟨fun _ => hb, fun hk => absurd hk (by omega)⟩
  · refine ⟨fun hk => ?_, fun _ => ⟨place, t, x, hrep, fun q hq => ht.blames hrep hq,
      fun hq => ht.size_of_none hrep hq⟩⟩
    have hpos := List.length_pos_of_ne_nil hrep.ne_nil
    obtain ⟨step, hstep, hreads⟩ := Path.steps_of_two hv (by omega) hfor.path
    rw [hstep] at hrep
    exact ⟨place, hrep.blames_of_two htlen hreads⟩

theorem value_chain :
    ∃ path, Path.plan ⟨[['a', 'b'], ['b', 'c'], ['c', 'd']], ['a', 'd']⟩ {} = .ok path ∧
      path.value Scalar.arithmetic true ([[2, 3], [3, 4], [5, 2]].map
        fun shape => .fill (.int int64) shape (.int int64 7)) =
        .error (.report { fault := .size 'c' (operandName 1) 0 4 5 }) := ⟨_, rfl, rfl⟩

theorem call_blames_of_chain :
    let e : Expression :=
      ⟨⟨[['a', 'b'], ['b', 'c'], ['c', 'd']], ['a', 'd']⟩, true, some "ab,bc,cd->ad"⟩
    let ts : List (Tensor Scalar) :=
      [[2, 3], [3, 4], [5, 2]].map fun shape => .fill (.int int64) shape (.int int64 7)
    let operands := ts.map Operand.array
    let r : Report := { fault := .size 'c' (operandName 1) 0 4 5 }
    parse "ab,bc,cd->ad" = .ok e ∧ (∀ t, .array t ∈ operands → t.IsArray) ∧
      2 < operands.length ∧
      ∃ p, (({} : Session).compile "ab,bc,cd->ad" operands.length {}).1 = .ok p ∧
        p.call operands = .error (.report r) ∧
        ∃ place t x, ReportedIn true (operandAt Scalar.arithmetic e.subscripts ts) r place t x
          p.path.steps ∧ ∀ q : Nat, t.operand = some (q : Int) →
            (r.naming (operandName q)).Blames e.subscripts.inputs (ts.map Tensor.shape) q := by
  intro e ts operands r
  have hp : parse "ab,bc,cd->ad" = .ok e := rfl
  have hcheck : e.check operands.length = .ok () := rfl
  have hr : ({} : Session).Reachable {} := .start 0
  have ha : ∀ t, .array t ∈ operands → t.IsArray := by
    intro t ht
    obtain ⟨t', ht', heq⟩ := List.mem_map.mp ht
    cases heq
    obtain ⟨shape, -, rfl⟩ := List.mem_map.mp ht'
    exact Tensor.isArray_fill shape (.int _ 7 rfl)
  obtain ⟨p, s', hcomp, hfor⟩ :=
    hr.sound.1.compile_eq_ok normalize_default (by decide) hp hcheck {}
  have hc : (({} : Session).compile "ab,bc,cd->ad" operands.length {}).1 = .ok p :=
    congrArg Prod.fst hcomp
  have hmap : operands.mapM Operand.tensor = .ok ts := mapM_tensor_array ts
  obtain ⟨path, hplan, hvalue⟩ := value_chain
  have hpath : p.path = path := Except.ok.inj (hfor.path.symm.trans hplan)
  have hcall : p.call operands = .error (.report r) := by
    rw [hfor.call_eq_value hp hcheck hmap, hpath]
    exact hvalue
  obtain ⟨ts', hts, -, h⟩ := call_blames hr hc hp ha hcall
  obtain rfl : ts = ts' := Except.ok.inj (hmap.symm.trans hts)
  obtain ⟨place, t, x, hrep, hq, -⟩ := h (by decide)
  exact ⟨hp, ha, by decide, p, hc, hcall, place, t, x, hrep, hq⟩

/-- A report on the third operand names the second one, to which it does not apply. -/
theorem exists_operand_misnamed :
    let e : Expression :=
      ⟨⟨[['a', 'b'], ['b', 'c'], ['c', 'd']], ['a', 'd']⟩, true, some "ab,bc,cd->ad"⟩
    let ts : List (Tensor Scalar) :=
      [[2, 3], [3, 4], [5, 2]].map fun shape => .fill (.int int64) shape (.int int64 7)
    parse "ab,bc,cd->ad" = .ok e ∧ (∀ t ∈ ts, t.IsArray) ∧
      ∃ r : Report, (({} : Session).einsum "ab,bc,cd->ad" (ts.map .array)).1 =
        .error (.report r) ∧
        r.message = "Size of index 'c' disagrees: 4 vs 5 (axis 0 of arg1)" ∧
        (∀ q, ¬ r.Blames e.subscripts.inputs (ts.map Tensor.shape) q) ∧
        (r.naming (operandName 2)).Blames e.subscripts.inputs (ts.map Tensor.shape) 2 := by
  intro e ts
  have hp : parse "ab,bc,cd->ad" = .ok e := rfl
  have ha : ∀ t ∈ ts, t.IsArray := by
    intro t ht
    obtain ⟨shape, -, rfl⟩ := List.mem_map.mp ht
    exact Tensor.isArray_fill shape (.int _ 7 rfl)
  have hcheck : e.check (ts.map Operand.array).length = .ok () := rfl
  have hr : ({} : Session).Reachable {} := .start 0
  obtain ⟨path, hplan, hvalue⟩ := value_chain
  refine ⟨hp, ha, { fault := .size 'c' (operandName 1) 0 4 5 }, ?_, by decide +kernel,
    fun q hb => ?_, ?_⟩
  · rw [hr.einsum_eq_value (by decide) (by decide) hp hcheck (mapM_tensor_array ts) hplan]
    exact hvalue
  · generalize hb' : ({ fault := .size 'c' (operandName 1) 0 4 5 } : Report) = r at hb
    cases hb with
    | rank => cases hb'
    | @size g ns l axis expected actual group shape label =>
      injection hb' with hfault
      injection hfault with hl hname haxis
      obtain rfl := operandName_injective hname
      obtain rfl : 0 = axis := Int.ofNat.inj haxis
      cases group
      cases label
      cases hl
  · exact @Report.Blames.size _ _ 2 ['c', 'd'] [5, 2] 'c' 0 4 5 rfl rfl rfl rfl (by decide)

end Einsum
