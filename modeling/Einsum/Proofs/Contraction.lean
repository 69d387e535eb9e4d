import Einsum.Path.Build
import Einsum.Path.Check
import Einsum.Proofs.Pair

namespace Einsum

def axesOf (live : List NamedTensor) : Group := (live.map NamedTensor.labels).flatten

theorem mem_axesOf {live : List NamedTensor} {l : Label} :
    l ∈ axesOf live ↔ ∃ t ∈ live, l ∈ t.labels := by
  simp [axesOf]

def finalTensor (output : Group) : NamedTensor := ⟨finalName, output, none⟩

/-- The step that contracts two tensors, others being live. With no others it gives the result. -/
def stepOf (output : Group) (n : Nat) (left right : NamedTensor) (rest : List NamedTensor) : Step :=
  let parts := split left.labels right.labels (output ++ axesOf rest)
  ⟨left, right, parts.summed,
    if rest.isEmpty then finalTensor output else ⟨intermediateName n, parts.residual, none⟩⟩

/-- Steps that contract live tensors until the result is left, new ones numbered from `n` on. -/
inductive Contracts (output : Group) : Nat → List NamedTensor → List Step → Prop
  | done {n : Nat} : Contracts output n [finalTensor output] []
  | step {n : Nat} {live rest : List NamedTensor} {left right : NamedTensor} {steps : List Step}
      (live_perm : live.Perm (left :: right :: rest))
      (tail : Contracts output (n + 1) ((stepOf output n left right rest).result :: rest) steps) :
      Contracts output n live (stepOf output n left right rest :: steps)

def Covers (output : Group) (live : List NamedTensor) : Prop := ∀ l ∈ output, l ∈ axesOf live

/-- Orders of pairs of distinct positions that leave one of `n` tensors. -/
def IsComplete : Nat → List Pair → Prop
  | n, [] => n = 1
  | n, (i, j) :: order => i < n ∧ j < n ∧ i ≠ j ∧ IsComplete (n - 1) order

instance decidableIsComplete : (n : Nat) → (order : List Pair) → Decidable (IsComplete n order)
  | n, [] => inferInstanceAs (Decidable (n = 1))
  | n, (i, j) :: order =>
    have := decidableIsComplete (n - 1) order
    inferInstanceAs (Decidable (i < n ∧ j < n ∧ i ≠ j ∧ IsComplete (n - 1) order))

def orderCosts (output : Group) : List Group → List Pair → List StepCost
  | _, [] => []
  | live, (i, j) :: order =>
    (splitAt output live i j).cost :: orderCosts output (contractAt output live i j) order

def Step.cost (s : Step) : StepCost := ⟨s.subscripts.timeOrder, s.subscripts.spaceOrder⟩

section

variable {output : Group} {n : Nat} {live rest : List NamedTensor} {left right : NamedTensor}

theorem Contracts.perm {live' : List NamedTensor} {steps : List Step}
    (h : Contracts output n live steps) (hp : live.Perm live') :
    Contracts output n live' steps := by
  cases h with
  | done => exact List.singleton_perm.mp hp ▸ .done
  | step live_perm tail => exact .step (hp.symm.trans live_perm) tail

theorem Covers.perm {live' : List NamedTensor} (h : Covers output live) (hp : live.Perm live') :
    Covers output live' := by
  intro l hl
  obtain ⟨t, ht, hlt⟩ := mem_axesOf.mp (h l hl)
  exact mem_axesOf.mpr ⟨t, hp.mem_iff.mp ht, hlt⟩

@[simp]
theorem stepOf_left : (stepOf output n left right rest).left = left := rfl

@[simp]
theorem stepOf_right : (stepOf output n left right rest).right = right := rfl

theorem mem_stepOf_summed {l : Label} : l ∈ (stepOf output n left right rest).summed ↔
    (l ∈ left.labels ∨ l ∈ right.labels) ∧ l ∉ output ∧ l ∉ axesOf rest := by
  rw [stepOf, mem_split_summed, List.mem_append, not_or]

theorem mem_stepOf_result (hc : Covers output (left :: right :: rest)) {l : Label} :
    l ∈ (stepOf output n left right rest).result.labels ↔
      (l ∈ left.labels ∨ l ∈ right.labels) ∧ (l ∈ output ∨ l ∈ axesOf rest) := by
  rw [stepOf]
  dsimp only
  split
  next hr =>
    rw [List.isEmpty_iff] at hr
    subst rest
    have hl := hc l
    simp only [mem_axesOf, List.mem_cons, exists_eq_or_imp, List.not_mem_nil] at hl
    simp only [finalTensor, mem_axesOf, List.not_mem_nil]
    grind
  next => rw [mem_split_residual, List.mem_append]

theorem mem_stepOf_axes {l : Label} : l ∈ (stepOf output n left right rest).subscripts.axes ↔
    l ∈ left.labels ∨ l ∈ right.labels := by
  simp [Subscripts.axes, Step.subscripts]

theorem nodup_stepOf_result (ho : output.Nodup) :
    (stepOf output n left right rest).result.labels.Nodup := by
  rw [stepOf]
  dsimp only
  split
  · exact ho
  · exact nodup_split_residual

theorem Covers.step (hc : Covers output (left :: right :: rest)) :
    Covers output ((stepOf output n left right rest).result :: rest) := by
  intro l hl
  obtain ⟨t, ht, hlt⟩ := mem_axesOf.mp (hc l hl)
  by_cases hr : l ∈ axesOf rest
  · obtain ⟨u, hu, hlu⟩ := mem_axesOf.mp hr
    exact mem_axesOf.mpr ⟨u, List.mem_cons_of_mem _ hu, hlu⟩
  · have hlr : l ∈ left.labels ∨ l ∈ right.labels := by
      rcases List.mem_cons.mp ht with rfl | ht
      · exact .inl hlt
      · rcases List.mem_cons.mp ht with rfl | ht
        · exact .inr hlt
        · exact absurd (mem_axesOf.mpr ⟨t, ht, hlt⟩) hr
    exact mem_axesOf.mpr ⟨_, List.mem_cons_self, (mem_stepOf_result hc).mpr ⟨hlr, .inl hl⟩⟩

theorem stepOf_subscripts_summed (hc : Covers output (left :: right :: rest)) :
    (stepOf output n left right rest).subscripts.summed =
      (stepOf output n left right rest).summed := by
  have ha : (stepOf output n left right rest).subscripts.axes = left.labels ++ right.labels := by
    simp [Subscripts.axes, Step.subscripts, stepOf]
  have hs : (stepOf output n left right rest).summed =
      sortLabels ((firsts (left.labels ++ right.labels)).filter (· ∉ output ++ axesOf rest)) :=
    rfl
  rw [Subscripts.summed, ha, hs]
  congr 1
  apply List.filter_congr
  intro l hl
  have hlr := List.mem_append.mp (mem_firsts.mp hl)
  have hr : l ∈ (stepOf output n left right rest).subscripts.output ↔
      l ∈ output ++ axesOf rest := by
    rw [List.mem_append]
    exact (mem_stepOf_result hc).trans (and_iff_right hlr)
  simp only [hr]

theorem stepOf_cost (hc : Covers output (left :: right :: rest)) (ho : output.Nodup) :
    (stepOf output n left right rest).cost =
      (Einsum.split left.labels right.labels (output ++ axesOf rest)).cost := by
  have hp : (stepOf output n left right rest).result.labels.Perm
      (Einsum.split left.labels right.labels (output ++ axesOf rest)).residual := by
    apply (List.perm_ext_iff_of_nodup (nodup_stepOf_result ho) nodup_split_residual).mpr
    intro l
    rw [mem_stepOf_result hc, mem_split_residual, List.mem_append]
  have hl : (stepOf output n left right rest).subscripts.output.length = _ := hp.length_eq
  rw [Step.cost, Subscripts.timeOrder, Subscripts.spaceOrder, stepOf_subscripts_summed hc, hl]
  rfl

theorem needed_eq (live : List NamedTensor) (i j : Nat) :
    needed (live.map NamedTensor.labels) i j output = output ++ axesOf (others live i j) := by
  rw [needed, others_map, axesOf]

theorem splitAt_labels {i j : Nat} (hi : i < live.length) (hj : j < live.length) :
    splitAt output (live.map NamedTensor.labels) i j =
      Einsum.split (live.getD i default).labels (live.getD j default).labels
        (output ++ axesOf (others live i j)) := by
  rw [splitAt, needed_eq]
  simp [hi, hj]

theorem IsComplete.two_le {m : Nat} {order : List Pair} (h : IsComplete m order)
    (hne : order ≠ []) :
    2 ≤ m := by
  obtain ⟨⟨i, j⟩, order, rfl⟩ := List.exists_cons_of_ne_nil hne
  obtain ⟨hi, hj, hij, -⟩ := h
  omega

theorem position?_natCast {length i : Nat} (h : i < length) : position? length i = some i := by
  have hz : ¬ (i : Int) < 0 := by omega
  have hb : 0 ≤ (i : Int) ∧ (i : Int) < length := by omega
  simp only [position?, hz, hb, if_true, if_false, and_self, Int.toNat_natCast]

theorem sameLabels_residual (hc : Covers output [left, right]) :
    sameLabels (split left.labels right.labels (output ++ axesOf [])).residual output = true := by
  simp only [sameLabels, Bool.and_eq_true, List.all_eq_true, decide_eq_true_eq, mem_split_residual]
  constructor
  · intro l hl
    simpa [axesOf] using hl.2
  · intro l hl
    have hm := hc l hl
    simp only [mem_axesOf, List.mem_cons, List.not_mem_nil, or_false, exists_eq_or_imp,
      exists_eq_left] at hm
    exact ⟨hm, List.mem_append_left _ hl⟩

section

variable {i j : Nat} (hi : i < live.length) (hj : j < live.length)

include hi hj

theorem stepsFrom_singleton (hr : others live i j = [])
    (hc : Covers output [live.getD i default, live.getD j default]) :
    ∃ perm, Path.stepsFrom output n live [.ok ((i : Int), (j : Int))] =
      .ok ([stepOf output n (live.getD i default) (live.getD j default) []], perm) := by
  refine ⟨axisPermutation (Einsum.split (live.getD i default).labels (live.getD j default).labels
    (output ++ axesOf [])).residual output, ?_⟩
  simp only [Path.stepsFrom, position?_natCast hi, position?_natCast hj, needed_eq, hr,
    sameLabels_residual hc, List.isEmpty_nil, if_true]
  rfl

theorem stepsFrom_cons {rest : List (Except Error (Int × Int))} (hne : rest ≠ [])
    (hr : others live i j ≠ []) {s : Step}
    (hs : s = stepOf output n (live.getD i default) (live.getD j default) (others live i j))
    {steps : List Step} {perm : Option (List Nat)}
    (h : Path.stepsFrom output (n + 1) (replacePair live i j s.result) rest = .ok (steps, perm)) :
    Path.stepsFrom output n live (.ok ((i : Int), (j : Int)) :: rest) = .ok (s :: steps, perm) := by
  have hm : rest.isEmpty = false := by simpa using hne
  have hres : s.result = ⟨intermediateName n, (Einsum.split (live.getD i default).labels
      (live.getD j default).labels (output ++ axesOf (others live i j))).residual, none⟩ := by
    simp [hs, stepOf, hr]
  rw [hres] at h
  simp only [Path.stepsFrom, position?_natCast hi, position?_natCast hj, needed_eq, hm, h]
  rw [← hres, hs]
  rfl

theorem labels_replacePair (hr : others live i j ≠ []) :
    (replacePair live i j
        (stepOf output n (live.getD i default) (live.getD j default) (others live i j)).result).map
          NamedTensor.labels =
      contractAt output (live.map NamedTensor.labels) i j := by
  rw [contractAt, splitAt_labels hi hj, ← replacePair_map]
  simp [stepOf, hr]

end

/-- Every complete order of pairs gives steps that contract the tensors, at the cost of the
order. -/
theorem stepsFrom_contracts {order : List Pair} (hne : order ≠ [])
    (ho : IsComplete live.length order) (hc : Covers output live) (hn : output.Nodup) :
    ∃ steps perm,
      Path.stepsFrom output n live (order.map fun p => .ok ((p.1 : Int), (p.2 : Int))) =
        .ok (steps, perm) ∧ Contracts output n live steps ∧
        steps.map Step.cost = orderCosts output (live.map NamedTensor.labels) order := by
  induction order generalizing live n with
  | nil => exact absurd rfl hne
  | cons p order ih =>
    obtain ⟨i, j⟩ := p
    obtain ⟨hi, hj, hij, ht⟩ := ho
    have hp := perm_others live default hi hj hij
    have hl := length_others live hi hj hij
    have hc' := hc.perm hp
    have hcost := stepOf_cost (n := n) hc' hn
    rw [← splitAt_labels hi hj] at hcost
    by_cases he : order = []
    · subst order
      have hr : others live i j = [] := by
        have : live.length - 1 = 1 := ht
        exact List.length_eq_zero_iff.mp (by omega)
      rw [hr] at hp hc' hcost
      obtain ⟨perm, hsteps⟩ := stepsFrom_singleton (n := n) hi hj hr hc'
      exact ⟨_, perm, hsteps, .step hp .done,
        by rw [List.map_singleton, hcost, orderCosts, orderCosts]⟩
    · have hlen := ht.two_le he
      have hr : others live i j ≠ [] := fun h => by
        rw [h] at hl
        simp at hl
        omega
      let s := stepOf output n (live.getD i default) (live.getD j default) (others live i j)
      have hrp := replacePair_perm live s.result hi hj hij
      have hrest : (replacePair live i j s.result).length = live.length - 1 := by
        have := length_replacePair live s.result hi hj hij
        omega
      obtain ⟨steps, perm, hsteps, hs, hcosts⟩ :=
        ih (n := n + 1) he (hrest ▸ ht) (hc'.step.perm hrp.symm)
      refine ⟨s :: steps, perm, ?_, .step hp (hs.perm hrp), ?_⟩
      · exact stepsFrom_cons hi hj (by simpa using he) hr rfl hsteps
      · rw [List.map_cons, hcost, hcosts, labels_replacePair hi hj hr, orderCosts]

end

theorem append_toString_injective (word : String) :
    Function.Injective fun n : Nat => word ++ toString n := by
  intro m n h
  have hl := congrArg String.toList h
  rw [String.toList_append, String.toList_append] at hl
  exact Nat.repr_inj.mp (String.toList_inj.mp (List.append_cancel_left hl))

theorem operandName_injective : Function.Injective operandName := append_toString_injective "arg"

theorem intermediateName_injective : Function.Injective intermediateName :=
  append_toString_injective "out"

theorem operandName_ne_intermediateName (i n : Nat) : operandName i ≠ intermediateName n := by
  intro h
  have ha : operandName i = "arg" ++ toString i := rfl
  have ho : intermediateName n = "out" ++ toString n := rfl
  have hl := congrArg (·.toList.head?) h
  simp [ha, ho, String.toList_append] at hl

structure Fresh (n : Nat) (live : List NamedTensor) : Prop where
  nodup : (live.map NamedTensor.name).Nodup
  named : ∀ t ∈ live, (∃ i, t.name = operandName i) ∨ ∃ m < n, t.name = intermediateName m

def Step.reads (s : Step) : List NamedTensor := [s.left, s.right]

section

variable {output : Group} {n : Nat} {live rest : List NamedTensor} {left right : NamedTensor}
  {steps : List Step}

theorem Fresh.perm {live' : List NamedTensor} (h : Fresh n live) (hp : live.Perm live') :
    Fresh n live' :=
  ⟨(hp.map _).nodup_iff.mp h.nodup, fun t ht => h.named t (hp.mem_iff.mpr ht)⟩

theorem Fresh.result_notMem (h : Fresh n (left :: right :: rest)) :
    (stepOf output n left right rest).result.name ∉ rest.map NamedTensor.name := by
  rw [stepOf]
  dsimp only
  split
  next hr => simp [List.isEmpty_iff.mp hr]
  next =>
    intro hm
    obtain ⟨t, ht, hname⟩ := List.mem_map.mp hm
    rcases h.named t (by simp [ht]) with ⟨i, hi⟩ | ⟨m, hlt, hm⟩
    · exact operandName_ne_intermediateName i n (hi.symm.trans hname)
    · exact hlt.ne (intermediateName_injective (hm.symm.trans hname))

theorem Fresh.notMem_rest (h : Fresh n (left :: right :: rest)) (output : Group) :
    (stepOf output n left right rest).result ∉ rest :=
  fun hm => h.result_notMem (List.mem_map_of_mem hm)

theorem Fresh.step (h : Fresh n (left :: right :: rest)) :
    Fresh (n + 1) ((stepOf output n left right rest).result :: rest) := by
  have hn : (rest.map NamedTensor.name).Nodup := h.nodup.of_cons.of_cons
  refine ⟨List.nodup_cons.mpr ⟨h.result_notMem, hn⟩, fun t ht => ?_⟩
  rcases List.mem_cons.mp ht with rfl | ht
  · right
    rw [stepOf]
    dsimp only
    split
    · exact ⟨0, Nat.succ_pos n, rfl⟩
    · exact ⟨n, Nat.lt_succ_self n, rfl⟩
  · rcases h.named t (by simp [ht]) with hi | ⟨m, hlt, hm⟩
    · exact .inl hi
    · exact .inr ⟨m, hlt.trans (Nat.lt_succ_self n), hm⟩

namespace Contracts

theorem axes_subset (h : Contracts output n live steps) (hc : Covers output live) :
    ∀ s ∈ steps, ∀ l ∈ s.subscripts.axes, l ∈ axesOf live := by
  induction h with
  | done => exact fun s hs => absurd hs List.not_mem_nil
  | @step n live rest left right steps live_perm _ ih =>
    have hc' := hc.perm live_perm
    have hmem (l : Label) : l ∈ left.labels ∨ l ∈ right.labels ∨ l ∈ axesOf rest →
        l ∈ axesOf live := by
      intro hm
      simp only [mem_axesOf, live_perm.mem_iff, List.mem_cons, exists_eq_or_imp]
      simpa only [mem_axesOf] using hm
    rw [List.forall_mem_cons]
    constructor
    · intro l hm
      exact hmem l ((mem_stepOf_axes.mp hm).imp_right .inl)
    · intro s hs l hl
      have hm := ih hc'.step s hs l hl
      rw [axesOf, List.map_cons, List.flatten_cons, List.mem_append] at hm
      exact hmem l (hm.elim (fun h => ((mem_stepOf_result hc').mp h).1.imp_right .inl)
        fun h => .inr (.inr h))

theorem output_subset (h : Contracts output n live steps) (hc : Covers output live)
    (ho : output.Nodup) :
    ∀ s ∈ steps, s.subscripts.output.Nodup ∧
      ∀ l ∈ s.subscripts.output, l ∈ s.subscripts.axes := by
  induction h with
  | done => exact fun s hs => absurd hs List.not_mem_nil
  | step live_perm _ ih =>
    have hc' := hc.perm live_perm
    rw [List.forall_mem_cons]
    refine ⟨⟨nodup_stepOf_result ho, fun l hl => ?_⟩, ih hc'.step⟩
    exact mem_stepOf_axes.mpr ((mem_stepOf_result hc').mp hl).1

theorem validated (h : Contracts output n live steps) (hc : Covers output live) (ho : output.Nodup)
    (hl : ∀ l ∈ axesOf live, isLabel l = true) :
    ∀ s ∈ steps, s.subscripts.Validated := fun s hs =>
  have hout := h.output_subset hc ho s hs
  ⟨fun l hm => hl l (h.axes_subset hc s hs l hm), hout.1, hout.2⟩

theorem live_of_nil (h : Contracts output n live []) : live = [finalTensor output] := by
  cases h
  rfl

theorem length_steps (h : Contracts output n live steps) : steps.length + 1 = live.length := by
  induction h with
  | done => rfl
  | step live_perm _ ih =>
    rw [live_perm.length_eq, List.length_cons, List.length_cons, List.length_cons, ih,
      List.length_cons]

theorem split {before after : List Step} (h : Contracts output n live (before ++ after)) :
    ∃ mid, Contracts output (n + before.length) mid after ∧
      (before.flatMap Step.reads ++ mid).Perm (live ++ before.map Step.result) := by
  induction before generalizing n live with
  | nil => exact ⟨live, h, by simp⟩
  | cons s before ih =>
    cases h with
    | @step _ _ rest left right _ live_perm tail =>
      obtain ⟨mid, hm, hp⟩ := ih tail
      refine ⟨mid, ?_, ?_⟩
      · rwa [List.length_cons, Nat.add_comm before.length, ← Nat.add_assoc]
      · have hmid := hp.trans List.perm_middle.symm
        exact ((hmid.cons right).cons left).trans (live_perm.symm.append_right _)

/-- Each tensor but the result is read by one step. -/
theorem reads_perm (h : Contracts output n live steps) :
    (steps.flatMap Step.reads ++ [finalTensor output]).Perm (live ++ steps.map Step.result) := by
  rw [← List.append_nil steps] at h
  obtain ⟨mid, hm, hp⟩ := h.split
  rwa [hm.live_of_nil] at hp

theorem reads_subset {before after : List Step} {s : Step}
    (h : Contracts output n live (before ++ s :: after)) :
    ∀ t ∈ s.reads, t ∈ live ++ before.map Step.result := by
  obtain ⟨mid, hm, hp⟩ := h.split
  intro t ht
  cases hm with
  | step live_perm _ =>
    refine hp.mem_iff.mp (List.mem_append_right _ (live_perm.mem_iff.mpr ?_))
    exact List.mem_append_left _ ht

theorem results (h : Contracts output n live steps) (hne : steps ≠ []) :
    ∃ rs, steps.map Step.result = rs ++ [finalTensor output] ∧
      rs.map NamedTensor.name = (List.range' n (steps.length - 1)).map intermediateName := by
  induction h with
  | done => exact absurd rfl hne
  | @step n live rest left right steps live_perm tail ih =>
    by_cases hs : steps = []
    · subst steps
      have hr := (List.cons.inj tail.live_of_nil).1
      exact ⟨[], by rw [List.map_cons, hr, List.map_nil, List.nil_append], rfl⟩
    · obtain ⟨rs, hr, hn⟩ := ih hs
      have hrest : rest ≠ [] := by
        rintro rfl
        have := tail.length_steps
        exact hs (List.length_eq_zero_iff.mp (by simpa using this))
      have hlen : steps.length - 1 + 1 = steps.length :=
        Nat.sub_add_cancel (List.length_pos_of_ne_nil hs)
      refine ⟨(stepOf output n left right rest).result :: rs,
        by rw [List.map_cons, hr, List.cons_append], ?_⟩
      rw [List.map_cons, hn, List.length_cons, Nat.add_sub_cancel, ← hlen, List.range'_succ,
        List.map_cons]
      simp [stepOf, hrest]

/-- Each label that the result lacks is summed once. -/
theorem summed (h : Contracts output n live steps) (hc : Covers output live) :
    (steps.flatMap Step.summed).Nodup ∧
      ∀ l, l ∈ steps.flatMap Step.summed ↔ l ∈ axesOf live ∧ l ∉ output := by
  induction h with
  | done => simp [axesOf, finalTensor]
  | @step n live rest left right steps live_perm tail ih =>
    have hc' := hc.perm live_perm
    obtain ⟨hn, hm⟩ := ih hc'.step
    have hr (l : Label) : l ∈ axesOf ((stepOf output n left right rest).result :: rest) ↔
        (l ∈ (stepOf output n left right rest).result.labels ∨ l ∈ axesOf rest) := by
          simp [axesOf]
    have hl (l : Label) : l ∈ axesOf live ↔ (l ∈ left.labels ∨ l ∈ right.labels) ∨
        l ∈ axesOf rest := by
      simp [mem_axesOf, live_perm.mem_iff, or_assoc]
    simp only [List.flatMap_cons, List.nodup_append, List.mem_append, hm, hr, hl, mem_stepOf_summed,
      mem_stepOf_result hc']
    refine ⟨⟨nodup_split_summed, hn, ?_⟩, fun l => by grind⟩
    rintro l ⟨-, ho, hx⟩ _ ⟨hr, -⟩ rfl
    exact hr.elim (fun h => h.2.elim ho hx) hx

/-- What a step sums is in no tensor that it leaves live. -/
theorem notMem_of_summed {before after : List Step} {s : Step}
    (h : Contracts output n live (before ++ s :: after)) {l : Label} (hl : l ∈ s.summed)
    {t : NamedTensor} (ht : t ∈ live ++ before.map Step.result)
    (hb : t ∉ before.flatMap Step.reads) (hs : t ∉ s.reads) : l ∉ t.labels := by
  obtain ⟨mid, hm, hp⟩ := h.split
  have hmid : t ∈ mid := (List.mem_append.mp (hp.mem_iff.mpr ht)).resolve_left hb
  cases hm with
  | step live_perm _ =>
    have hrest :=
      (List.mem_append.mp (live_perm.mem_iff.mp hmid : t ∈ [_, _] ++ _)).resolve_left hs
    intro hlt
    exact (mem_stepOf_summed.mp hl).2.2 (mem_axesOf.mpr ⟨t, hrest, hlt⟩)

theorem subscripts_summed (h : Contracts output n live steps) (hc : Covers output live) :
    ∀ s ∈ steps, s.subscripts.summed = s.summed := by
  induction h with
  | done => exact fun s hs => absurd hs List.not_mem_nil
  | step live_perm _ ih =>
    have hc' := hc.perm live_perm
    rw [List.forall_mem_cons]
    exact ⟨stepOf_subscripts_summed hc', ih hc'.step⟩

end Contracts

end

end Einsum
