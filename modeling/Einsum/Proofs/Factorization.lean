import Einsum.Proofs.Compilation
import Einsum.Proofs.Optimum

namespace Einsum

section

variable {s t : Subscripts}

theorem Subscripts.Validated.timeOrder_eq (hs : s.Validated) :
    s.timeOrder = s.axes.toFinset.card := by
  have hn : (s.output ++ s.summed).Nodup := by
    refine List.nodup_append.mpr ⟨hs.output_nodup, s.nodup_summed, ?_⟩
    rintro l ho _ hl rfl
    exact (s.mem_summed.mp hl).2 ho
  have hm : (s.output ++ s.summed).toFinset = s.axes.toFinset := by
    ext l
    have ho := hs.output_subset l
    simp only [List.mem_toFinset, List.mem_append, s.mem_summed]
    tauto
  rw [← hm, List.toFinset_card_of_nodup hn, List.length_append]
  rfl

theorem Subscripts.Validated.timeOrder_le (hs : s.Validated) (ht : t.Validated)
    (h : ∀ l ∈ t.axes, l ∈ s.axes) :
    t.timeOrder ≤ s.timeOrder := by
  rw [hs.timeOrder_eq, ht.timeOrder_eq]
  refine Finset.card_le_card fun l hl => ?_
  rw [List.mem_toFinset] at hl ⊢
  exact h l hl

theorem length_loopLabels_reductionBody (s : Subscripts) :
    (reductionBody s).loopLabels.length = s.timeOrder := by
  rw [loopLabels_reductionBody, List.length_append]
  rfl

theorem Step.toFinset_axes (t : Step) :
    t.subscripts.axes.toFinset = t.left.labels.toFinset ∪ t.right.labels.toFinset := by
  simp [Subscripts.axes, Step.subscripts]

end

/-- No kernel of a path runs over more labels than one loop nest for the whole expression. -/
theorem Path.Reaches.timeOrder_le {p : Path} (h : p.Reaches) (hs : p.subscripts.Validated) :
    ∀ u ∈ p.kernelSubscripts, u.timeOrder ≤ p.subscripts.timeOrder := by
  intro u hu
  obtain ⟨hv, ha⟩ := h.validated_kernelSubscripts hs u hu
  exact hs.timeOrder_le hv ha

inductive Leads (output : Group) (start : List Group) : List Pair → List Group → Prop
  | start : Leads output start [] start
  | contract {chosen : List Pair} {live : List Group} {i j : Nat}
      (before : Leads output start chosen live)
      (left : i < live.length) (right : j < live.length) (distinct : i ≠ j) :
      Leads output start (chosen ++ [(i, j)]) (contractAt output live i j)

namespace Leads

variable {output : Group} {start live : List Group} {chosen : List Pair}

theorem isComplete (h : Leads output start chosen live) {order : List Pair}
    (ho : IsComplete live.length order) :
    IsComplete start.length (chosen ++ order) := by
  induction h generalizing order with
  | start => exact ho
  | @contract chosen live i j before left right distinct ih =>
    rw [List.append_assoc]
    rw [length_contractAt output live left right distinct] at ho
    exact ih ⟨left, right, distinct, ho⟩

theorem drop_orderCosts (h : Leads output start chosen live) (order : List Pair) :
    (orderCosts output start (chosen ++ order)).drop chosen.length =
      orderCosts output live order := by
  induction h generalizing order with
  | start => rfl
  | @contract chosen live i j before left right distinct ih =>
    rw [List.append_assoc, List.length_append, ← List.drop_drop, ih]
    rfl

end Leads

/-- A step that a search weighs: the pairs chosen before, its own pair, and what it sums and
leaves. -/
structure Weighing where
  before : List Pair
  pair : Pair
  parts : Split
deriving DecidableEq

namespace Weighing

variable (w : Weighing)

def IsIn (order : List Pair) : Prop := w.before ++ [w.pair] <+: order

def IsFrom (output : Group) (start : List Group) : Prop :=
  ∃ live, Leads output start w.before live ∧ w.pair ∈ pairsByRank live ∧
    w.parts = splitAt output live w.pair.1 w.pair.2

variable {w}

theorem IsFrom.exists_complete {output : Group} {start : List Group} (h : w.IsFrom output start) :
    ∃ order, IsComplete start.length order ∧ w.IsIn order := by
  obtain ⟨live, hlead, hpair, -⟩ := h
  obtain ⟨hij, hj⟩ := mem_pairsByRank.mp hpair
  have hnext := hlead.contract (hij.trans hj) hj hij.ne
  have hlen := length_contractAt output live (hij.trans hj) hj hij.ne
  -- Any way to go on will do, such as the greedy one.
  let rest := greedyFrom output live.length (contractAt output live w.pair.1 w.pair.2)
  have hrest : IsComplete _ rest := isComplete_greedyFrom (by omega) (by omega)
  exact ⟨_, hnext.isComplete hrest, List.prefix_append _ _⟩

end Weighing

structure Search where
  best : Option Candidate
  weighed : List Weighing

def Search.weigh (r : Search) (w : Weighing) : Search := { r with weighed := r.weighed ++ [w] }

/-- The search below a partial order, with a record of each step whose cost is compared. -/
def weighFrom (output : Group) : Nat → List Group → List Pair → StepCost → Search → Search
  | 0, _, _, _, r => r
  | fuel + 1, live, chosen, cost, r =>
    if r.best.any (·.cost.le cost) then r
    else if live.length = 1 then { r with best := some ⟨cost, chosen.reverse⟩ }
    else (pairsByRank live).foldl (fun r p =>
      let parts := splitAt output live p.1 p.2
      weighFrom output fuel (contractAt output live p.1 p.2) (p :: chosen) (cost.max parts.cost)
        (r.weigh ⟨chosen.reverse, p, parts⟩)) r

def Subscripts.search (s : Subscripts) : Search :=
  weighFrom s.output s.inputs.length s.inputs [] .zero ⟨none, []⟩

/-- The record does not change what is found. -/
theorem best_weighFrom {output : Group} {fuel : Nat} {live : List Group} {chosen : List Pair}
    {cost : StepCost} {r : Search} :
    (weighFrom output fuel live chosen cost r).best =
      searchFrom output fuel live chosen cost r.best := by
  induction fuel generalizing live chosen cost r with
  | zero => rfl
  | succ fuel ih =>
    rw [weighFrom, searchFrom]
    split
    · rfl
    · split
      · rfl
      · refine (List.foldl_hom Search.best ?_).symm
        rintro r ⟨i, j⟩
        dsimp only
        rw [ih]
        rfl

theorem toOption_cheapestPairs (s : Subscripts) :
    (cheapestPairs s).toOption = s.search.best.map Candidate.order := by
  rw [Subscripts.search, best_weighFrom, cheapestPairs]
  split
  next best hb =>
    rw [hb]
    rfl
  next hb =>
    rw [hb]
    rfl

namespace Search

def Weighs (r : Search) (order : List Pair) : Prop :=
  ∀ n < order.length, ∃ w ∈ r.weighed, w.IsIn order ∧ w.before.length = n

/-- What holds whenever the search has come to a partial order. -/
structure Sound (output : Group) (start : List Group) (chosen : List Pair) (r : Search) : Prop where
  weighed : ∀ w ∈ r.weighed, w.IsFrom output start
  chosen : r.Weighs chosen
  best : ∀ b ∈ r.best, r.Weighs b.order

variable {output : Group} {start live : List Group} {chosen order : List Pair} {p : Pair}
  {r : Search}

theorem Weighs.weigh (h : r.Weighs order) (w : Weighing) : (r.weigh w).Weighs order := by
  intro n hn
  obtain ⟨v, hv, hin⟩ := h n hn
  exact ⟨v, List.mem_append_left _ hv, hin⟩

theorem Weighs.concat (h : r.Weighs chosen) (parts : Split) :
    (r.weigh ⟨chosen, p, parts⟩).Weighs (chosen ++ [p]) := by
  intro n hn
  rw [List.length_append, List.length_singleton, Nat.lt_succ_iff_lt_or_eq] at hn
  rcases hn with hn | rfl
  · obtain ⟨w, hw, hin, hlen⟩ := h.weigh ⟨chosen, p, parts⟩ n hn
    exact ⟨w, hw, hin.trans (List.prefix_append _ _), hlen⟩
  · exact ⟨_, List.mem_append_right _ List.mem_cons_self, List.prefix_rfl, rfl⟩

theorem Weighs.of_concat (h : r.Weighs (chosen ++ [p])) : r.Weighs chosen := by
  intro n hn
  obtain ⟨w, hw, hin, hlen⟩ := h n (hn.trans_le (List.prefix_append _ _).length_le)
  refine ⟨w, hw, List.prefix_of_prefix_length_le hin (List.prefix_append _ _) ?_, hlen⟩
  rw [List.length_append, hlen]
  exact hn

namespace Sound

theorem weigh (h : r.Sound output start chosen) (hlead : Leads output start chosen live)
    (hp : p ∈ pairsByRank live) :
    (r.weigh ⟨chosen, p, splitAt output live p.1 p.2⟩).Sound output start (chosen ++ [p]) where
  weighed := by
    rw [Search.weigh, List.forall_mem_append, List.forall_mem_singleton]
    exact ⟨h.weighed, live, hlead, hp, rfl⟩
  chosen := h.chosen.concat _
  best b hb := (h.best b hb).weigh _

theorem leave (h : r.Sound output start (chosen ++ [p])) : r.Sound output start chosen :=
  ⟨h.weighed, h.chosen.of_concat, h.best⟩

theorem found (h : r.Sound output start chosen) (cost : StepCost) :
    Sound output start chosen { r with best := some ⟨cost, chosen⟩ } where
  weighed := h.weighed
  chosen := h.chosen
  best b hb := by
    obtain rfl := Option.some.inj hb
    exact h.chosen

theorem weighFrom (chosen : List Pair) (hlead : Leads output start chosen.reverse live)
    (h : r.Sound output start chosen.reverse) (fuel : Nat) (cost : StepCost) :
    (Einsum.weighFrom output fuel live chosen cost r).Sound output start chosen.reverse := by
  induction fuel generalizing live chosen cost r with
  | zero => exact h
  | succ fuel ih =>
    rw [Einsum.weighFrom]
    split
    · exact h
    · split
      · exact h.found cost
      · -- Below a pair the invariant holds with the pair chosen, and on the way back the pair
        -- is dropped again.
        refine List.foldlRecOn (motive := fun r : Search => r.Sound output start chosen.reverse) _ _
          h fun r h p hp => ?_
        obtain ⟨hij, hj⟩ := mem_pairsByRank.mp hp
        have hnext := hlead.contract (hij.trans hj) hj hij.ne
        have hbelow := h.weigh hlead hp
        rw [← List.reverse_cons] at hnext hbelow
        have hdone := ih _ hnext hbelow (cost.max (splitAt output live p.1 p.2).cost)
        rw [List.reverse_cons] at hdone
        exact hdone.leave

end Sound

theorem sound_search (s : Subscripts) : s.search.Sound s.output s.inputs [] := by
  have hstart : Sound s.output s.inputs [] ⟨none, []⟩ :=
    ⟨fun _ hw => absurd hw List.not_mem_nil, fun n hn => absurd hn n.not_lt_zero,
      fun _ hb => absurd hb (by simp)⟩
  exact Sound.weighFrom [] .start hstart _ _

end Search

namespace Path

variable {s : Subscripts}

theorem exists_step_cost (hs : s.Validated) (hk : 2 ≤ s.inputs.length) {w : Weighing}
    (h : w.IsFrom s.output s.inputs) {order : List Pair} (ho : IsComplete s.inputs.length order)
    (hin : w.IsIn order) :
    ∃ p t, ofOrder s (integerOrder order) = .ok p ∧ p.steps[w.before.length]? = some t ∧
      w.parts.cost = t.cost := by
  obtain ⟨live, hlead, -, hparts⟩ := h
  obtain ⟨rest, rfl⟩ := hin
  obtain ⟨p, hp, -, -, -, hcosts⟩ := ofOrder_contracts hs hk ho
  have hdrop := congrArg List.head? (hlead.drop_orderCosts (w.pair :: rest))
  rw [List.append_cons, ← hcosts, List.head?_drop, List.getElem?_map, orderCosts,
    ← hparts] at hdrop
  obtain ⟨t, ht, hc⟩ := Option.map_eq_some_iff.mp hdrop
  exact ⟨p, t, hp, ht, hc.symm⟩

/-- In whichever order the operands are contracted, each step runs over the labels of its two
tensors, which are no more than one loop nest for the whole expression runs over. The costs that
exhaustive search compares are the orders of such steps, and each step of the order that it returns
is among those compared. -/
theorem ofOrder_timeOrder_le (hs : s.Validated) (hk : 2 ≤ s.inputs.length) :
    (∀ order, IsComplete s.inputs.length order →
      ∃ p, ofOrder s (integerOrder order) = .ok p ∧
      (∀ t ∈ p.steps, t.subscripts.timeOrder =
        (t.left.labels.toFinset ∪ t.right.labels.toFinset).card ∧
        t.subscripts.timeOrder ≤ s.timeOrder) ∧
      p.timeOrder ≤ s.timeOrder ∧ s.timeOrder = (reductionBody s).loopLabels.length) ∧
    (∃ best, s.search.best = some best ∧ cheapestPairs s = .ok best.order ∧
      s.search.Weighs best.order) ∧
    ∀ w ∈ s.search.weighed, (∃ order, IsComplete s.inputs.length order ∧ w.IsIn order) ∧
      ∀ order, IsComplete s.inputs.length order → w.IsIn order →
        ∃ p t, ofOrder s (integerOrder order) = .ok p ∧ p.steps[w.before.length]? = some t ∧
          w.parts.residual.length + w.parts.summed.length = t.subscripts.timeOrder ∧
          w.parts.residual.length = t.subscripts.spaceOrder := by
  have hsound := Search.sound_search s
  refine ⟨fun order ho => ?_, ?_, fun w hw => ?_⟩
  · obtain ⟨p, hp, rfl, hne, hc, -⟩ := ofOrder_contracts hs hk ho
    have hle := Reaches.timeOrder_le (.inr ⟨hne, hc⟩) hs
    refine ⟨p, hp, fun t ht => ⟨?_, hle _ ?_⟩, timeOrder_le_iff.mpr hle,
      (length_loopLabels_reductionBody _).symm⟩
    · rw [(validated_steps hs hc t ht).timeOrder_eq, t.toFinset_axes]
    · rw [kernelSubscripts_of_ne hne]
      exact List.mem_map_of_mem ht
  · obtain ⟨order, ho, -⟩ := cheapestPairs_least (one_le_two.trans hk)
    have hbest := toOption_cheapestPairs s
    rw [ho] at hbest
    obtain ⟨best, hb, rfl⟩ := Option.map_eq_some_iff.mp hbest.symm
    exact ⟨best, hb, ho, hsound.best best hb⟩
  · have hfrom := hsound.weighed w hw
    refine ⟨hfrom.exists_complete, fun order ho hin => ?_⟩
    obtain ⟨p, t, hp, ht, hcost⟩ := exists_step_cost hs hk hfrom ho hin
    exact ⟨p, t, hp, ht, congrArg StepCost.compute hcost, congrArg StepCost.memory hcost⟩

/-- Nothing is weighed below the third pair, which costs as much as the best order found by then. -/
theorem ofOrder_timeOrder_le_of_three :
    let s := Subscripts.mk [['a', 'b', 'c'], ['a'], ['b']] []
    s.Validated ∧ 2 ≤ s.inputs.length ∧ IsComplete s.inputs.length [(2, 0), (1, 0)] ∧
      (s.search.weighed.map fun w => (w.before, w.pair, w.parts.cost)) =
        [([], (0, 1), ⟨3, 1⟩), ([(0, 1)], (0, 1), ⟨1, 0⟩), ([], (0, 2), ⟨3, 1⟩),
          ([], (1, 2), ⟨2, 2⟩), ([(1, 2)], (0, 1), ⟨3, 0⟩)] ∧
      (∃ p, ofOrder s (integerOrder [(2, 0), (1, 0)]) = .ok p ∧ p.timeOrder ≤ 3) ∧
      ∃ p t, ofOrder s (integerOrder [(1, 2), (0, 1)]) = .ok p ∧ p.steps[1]? = some t ∧
        3 = t.subscripts.timeOrder ∧ 0 = t.subscripts.spaceOrder := by
  intro s
  have hs : s.Validated := by decide
  have ho : IsComplete s.inputs.length [(2, 0), (1, 0)] := by decide
  obtain ⟨hbound, -, hweighed⟩ := ofOrder_timeOrder_le hs (by decide)
  obtain ⟨p, hp, -, hle, -⟩ := hbound _ ho
  have hmem : ⟨[(1, 2)], (0, 1), ⟨['a', 'b', 'c'], []⟩⟩ ∈ s.search.weighed := by decide
  exact ⟨hs, by decide, ho, by decide, ⟨p, hp, hle⟩, (hweighed _ hmem).2 _ (by decide)
    List.prefix_rfl⟩

end Path

end Einsum
