import Einsum.Proofs.Plan

namespace Einsum

def SameSets (live live' : List Group) : Prop :=
  (live.map List.toFinset).Perm (live'.map List.toFinset)

section

variable (output : Group) {live live' : List Group} {i j : Nat}

theorem toFinset_getD (live : List Group) (i : Nat) :
    (live.map List.toFinset).getD i ∅ = (live.getD i []).toFinset := by
  rw [← List.toFinset_nil, List.getD_map]

variable {output} in
theorem mem_needed {l : Label} : l ∈ needed live i j output ↔
    l ∈ output ∨ ∃ S ∈ others (live.map List.toFinset) i j, l ∈ S := by
  rw [needed, others_map]
  simp

theorem SameSets.contractAt (h : SameSets live live') (hi : i < live.length) (hj : j < live.length)
    (hij : i ≠ j) :
    ∃ p q, p < q ∧ q < live'.length ∧
      (splitAt output live' p q).cost = (splitAt output live i j).cost ∧
      SameSets (Einsum.contractAt output live i j) (Einsum.contractAt output live' p q) := by
  obtain ⟨i', j', hi', hj', hij', hdi, hdj, hp⟩ := exists_pair_of_perm ∅ h
    (by simpa using hi : i < _) (by simpa using hj : j < _) hij
  rw [List.length_map] at hi' hj'
  rw [toFinset_getD, toFinset_getD] at hdi hdj
  -- The pair may have to be turned around, which neither the labels nor the other tensors notice.
  obtain ⟨p, q, hpq, hq, hl, hn⟩ : ∃ p q, p < q ∧ q < live'.length ∧
      (∀ l, l ∈ live'.getD p [] ∨ l ∈ live'.getD q [] ↔ l ∈ live.getD i [] ∨
        l ∈ live.getD j []) ∧
      (others (live'.map List.toFinset) p q).Perm (others (live.map List.toFinset) i j) := by
    have hmi (l : Label) : l ∈ live'.getD i' [] ↔ l ∈ live.getD i [] := by
      rw [← List.mem_toFinset, hdi, List.mem_toFinset]
    have hmj (l : Label) : l ∈ live'.getD j' [] ↔ l ∈ live.getD j [] := by
      rw [← List.mem_toFinset, hdj, List.mem_toFinset]
    rcases lt_or_gt_of_ne hij' with hlt | hlt
    · exact ⟨i', j', hlt, hj', fun l => by rw [hmi, hmj], hp⟩
    · exact ⟨j', i', hlt, hi', fun l => by rw [hmi, hmj, or_comm],
        others_comm _ (j' : Int) i' ▸ hp⟩
  have hneeded (l : Label) : l ∈ needed live' p q output ↔ l ∈ needed live i j output := by
    simp only [mem_needed, hn.mem_iff]
  obtain ⟨hcost, hres⟩ := split_congr hl hneeded
  refine ⟨p, q, hpq, hq, hcost, ?_⟩
  have hc := (replacePair_perm live (splitAt output live i j).residual hi hj hij).map List.toFinset
  have hc' := (replacePair_perm live' (splitAt output live' p q).residual
    (hpq.trans hq) hq hpq.ne).map List.toFinset
  rw [List.map_cons, ← others_map] at hc hc'
  refine hc.trans (.trans ?_ hc'.symm)
  rw [splitAt, splitAt, hres]
  exact hn.symm.cons _

/-- The costs of any complete order are those of an order of ascending pairs. -/
theorem exists_ascending (h : SameSets live live') {order : List Pair}
    (ho : IsComplete live.length order) :
    ∃ order', IsComplete live'.length order' ∧ (∀ p ∈ order', p.1 < p.2) ∧
      orderCosts output live' order' = orderCosts output live order := by
  have hlen : live'.length = live.length := by simpa using h.length_eq.symm
  induction order generalizing live live' with
  | nil => exact ⟨[], hlen.trans ho, by simp, rfl⟩
  | cons r order ih =>
    obtain ⟨i, j⟩ := r
    obtain ⟨hi, hj, hij, ht⟩ := ho
    obtain ⟨p, q, hpq, hq, hcost, hs⟩ := h.contractAt output hi hj hij
    have hl := length_contractAt output live hi hj hij
    have hl' := length_contractAt output live' (hpq.trans hq) hq hpq.ne
    obtain ⟨order', ho', ha, hc⟩ := ih hs (hl ▸ ht) (by omega)
    refine ⟨(p, q) :: order', ⟨hpq.trans hq, hq, hpq.ne, hl' ▸ ho'⟩, ?_, ?_⟩
    · exact List.forall_mem_cons.mpr ⟨hpq, ha⟩
    · rw [orderCosts, orderCosts, hcost, hc]

end

theorem foldl_max_le_iff {ns : List Nat} {m n : Nat} :
    ns.foldl max m ≤ n ↔ m ≤ n ∧ ∀ k ∈ ns, k ≤ n := by
  induction ns generalizing m with
  | nil => simp
  | cons k ns ih => rw [List.foldl_cons, ih, max_le_iff, List.forall_mem_cons, and_assoc]

def Subscripts.orders (s : Subscripts) : ℕ ×ₗ ℕ := toLex (s.timeOrder, s.spaceOrder)

namespace Path

def orders (p : Path) : ℕ ×ₗ ℕ := toLex (p.timeOrder, p.spaceOrder)

variable {s : Subscripts} {p q : Path}

theorem timeOrder_le_iff {n : Nat} :
    p.timeOrder ≤ n ↔ ∀ u ∈ p.kernelSubscripts, u.timeOrder ≤ n := by
  rw [timeOrder, foldl_max_le_iff, List.forall_mem_map]
  exact and_iff_right n.zero_le

theorem spaceOrder_le_iff {n : Nat} :
    p.spaceOrder ≤ n ↔ ∀ u ∈ p.kernelSubscripts, u.spaceOrder ≤ n := by
  rw [spaceOrder, foldl_max_le_iff, List.forall_mem_map]
  exact and_iff_right n.zero_le

theorem orders_le {u : Subscripts} (hu : u ∈ p.kernelSubscripts) : u.orders ≤ p.orders :=
  Prod.Lex.toLex_mono ⟨timeOrder_le_iff.mp le_rfl u hu, spaceOrder_le_iff.mp le_rfl u hu⟩

/-- Each kernel of one path is matched by a kernel of the other that costs as much. -/
def Dominates (q p : Path) : Prop :=
  ∀ u ∈ p.kernelSubscripts, ∃ v ∈ q.kernelSubscripts, u.orders ≤ v.orders

theorem Dominates.timeOrder_le (h : q.Dominates p) : p.timeOrder ≤ q.timeOrder := by
  rw [timeOrder_le_iff]
  intro u hu
  obtain ⟨v, hv, hle⟩ := h u hu
  exact (Prod.Lex.monotone_fst _ _ hle).trans (timeOrder_le_iff.mp le_rfl v hv)

theorem Dominates.orders_le (h : q.Dominates p)
    (hp : ∃ u ∈ p.kernelSubscripts, u.orders = p.orders) :
    p.orders ≤ q.orders := by
  obtain ⟨u, hu, he⟩ := hp
  obtain ⟨v, hv, hle⟩ := h u hu
  exact he ▸ hle.trans (Path.orders_le hv)

theorem dominates_of_costs (hp : p.steps ≠ []) (hq : q.steps ≠ [])
    (h : ((p.steps.map Step.cost).foldl StepCost.max .zero).key ≤
      ((q.steps.map Step.cost).foldl StepCost.max .zero).key) : q.Dominates p := by
  intro u hu
  rw [kernelSubscripts_of_ne hp] at hu
  obtain ⟨step, hstep, rfl⟩ := List.mem_map.mp hu
  obtain ⟨_, hc, hle⟩ :=
    StepCost.exists_key_le h (by simpa using hq) (List.mem_map_of_mem hstep)
  obtain ⟨step', hstep', rfl⟩ := List.mem_map.mp hc
  refine ⟨step'.subscripts, ?_, hle⟩
  rw [kernelSubscripts_of_ne hq]
  exact List.mem_map_of_mem hstep'

/-- The exhaustive strategy finds a path whose largest step is least, and so is its time order. Its
space order is least among such paths if it belongs to a step of that time order. -/
theorem plan_exhaustive_least (hs : s.Validated) (hk : 2 ≤ s.inputs.length) {c : Config}
    (hc : c.strategy = .exhaustive) (hl : (s.inputs.length : Int) ≤ c.operandLimit) :
    ∃ p, plan s c = .ok p ∧ ∀ order, IsComplete s.inputs.length order →
      ∃ q, ofOrder s (integerOrder order) = .ok q ∧ q.Dominates p ∧
        p.timeOrder ≤ q.timeOrder ∧
        ((∃ u ∈ p.kernelSubscripts, u.orders = p.orders) → p.orders ≤ q.orders) := by
  obtain ⟨best, hbest, hcomplete, hleast⟩ := cheapestPairs_least (one_le_two.trans hk)
  obtain ⟨p, hp, -, hpn, -, hpc⟩ := ofOrder_contracts hs hk hcomplete
  refine ⟨p, ?_, fun order ho => ?_⟩
  · have hone : ¬ s.inputs.length = 1 := by omega
    rw [plan, if_neg hone, chooseOrder, if_pos ⟨hc, hl⟩, hbest]
    exact hp
  · obtain ⟨q, hq, -, hqn, -, hqc⟩ := ofOrder_contracts hs hk ho
    obtain ⟨order', ho', ha, hcosts⟩ := exists_ascending s.output (List.Perm.refl _) ho
    have hle := hleast order' ho' ha
    rw [hcosts, ← hpc, ← hqc] at hle
    have hd := dominates_of_costs hpn hqn hle
    exact ⟨q, hq, hd, hd.timeOrder_le, hd.orders_le⟩

theorem plan_exhaustive_least_of_cycle :
    let s := Subscripts.mk [['a', 'b'], ['b', 'c'], ['c', 'd'], ['d', 'a']] []
    let c : Config := { strategy := .exhaustive }
    s.Validated ∧ 2 ≤ s.inputs.length ∧ c.strategy = .exhaustive ∧
      (s.inputs.length : Int) ≤ c.operandLimit ∧
      ∃ p, plan s c = .ok p ∧ ∀ order, IsComplete s.inputs.length order →
        ∃ q, ofOrder s (integerOrder order) = .ok q ∧ q.Dominates p ∧
          p.timeOrder ≤ q.timeOrder ∧
          ((∃ u ∈ p.kernelSubscripts, u.orders = p.orders) → p.orders ≤ q.orders) := by
  intro s c
  have hs : s.Validated := by decide
  exact ⟨hs, by decide, rfl, by decide, plan_exhaustive_least hs (by decide) rfl (by decide)⟩

/-- A path whose largest step is least may take more space in another step than a path of the same
time order does. -/
theorem exists_less_space :
    let s := Subscripts.mk [['a', 'b', 'c'], ['a'], ['b']] []
    ((plan s { strategy := .exhaustive }).toOption.map fun p => (p.timeOrder, p.spaceOrder)) =
      some (3, 2) ∧
      ((ofOrder s (integerOrder [(0, 1), (0, 1)])).toOption.map
        fun q => (q.timeOrder, q.spaceOrder)) = some (3, 1) := by
  decide

end Path

end Einsum
