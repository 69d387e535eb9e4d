import Einsum.Proofs.Contraction

namespace Einsum

theorem mem_pairsBelow {n : Nat} {p : Pair} : p ∈ pairsBelow n ↔ p.1 < p.2 ∧ p.2 < n := by
  obtain ⟨i, j⟩ := p
  simp only [pairsBelow, List.mem_flatMap, List.mem_map, List.mem_filter, List.mem_range,
    decide_eq_true_eq, Prod.mk.injEq]
  constructor
  · rintro ⟨i', -, j', ⟨hj, hij⟩, rfl, rfl⟩
    exact ⟨hij, hj⟩
  · rintro ⟨hij, hj⟩
    exact ⟨i, hij.trans hj, j, ⟨hj, hij⟩, rfl, rfl⟩

theorem pairsByRank_perm (live : List Group) :
    (pairsByRank live).Perm (pairsBelow live.length) := by
  have h := (sorted_perm Rank.le ((pairsBelow live.length).map (rank live))).map Rank.pair
  rw [List.map_map] at h
  exact h.trans (by simp [Function.comp_def, rank])

theorem mem_pairsByRank {live : List Group} {p : Pair} :
    p ∈ pairsByRank live ↔ p.1 < p.2 ∧ p.2 < live.length := by
  rw [(pairsByRank_perm live).mem_iff, mem_pairsBelow]

theorem nodup_pairsByRank (live : List Group) : (pairsByRank live).Nodup := by
  rw [(pairsByRank_perm live).nodup_iff, pairsBelow, List.nodup_flatMap]
  refine ⟨fun i _ => ?_, List.nodup_range.imp fun hne => ?_⟩
  · exact (List.nodup_range.filter _).map fun _ _ he => (Prod.mk.inj he).2
  · intro p hp hq
    obtain ⟨_, -, rfl⟩ := List.mem_map.mp hp
    obtain ⟨_, -, he⟩ := List.mem_map.mp hq
    exact hne (Prod.mk.inj he).1.symm

section

variable {output : Group} {live : List Group}

variable (output live) in
theorem length_contractAt {i j : Nat} (hi : i < live.length) (hj : j < live.length)
    (hij : i ≠ j) :
    (contractAt output live i j).length = live.length - 1 := by
  have h := length_replacePair live (splitAt output live i j).residual hi hj hij
  rw [contractAt]
  omega

/-- The orders of `n` pairs that a depth-first search by rank meets, in the order in which it meets
them. -/
def ordersFrom (output : Group) : Nat → List Group → List (List Pair)
  | 0, _ => [[]]
  | n + 1, live =>
    (pairsByRank live).flatMap fun p => (ordersFrom output n (contractAt output live p.1 p.2)).map
      (p :: ·)

theorem mem_ordersFrom {n : Nat} (h : live.length = n + 1) {order : List Pair} :
    order ∈ ordersFrom output n live ↔ IsComplete live.length order ∧
      ∀ p ∈ order, p.1 < p.2 := by
  induction n generalizing live order with
  | zero =>
    rw [ordersFrom, List.mem_singleton]
    cases order with
    | nil => simp [IsComplete, h]
    | cons p order =>
      have hn : ¬ IsComplete live.length (p :: order) := fun hc => by
        have := hc.two_le (List.cons_ne_nil p order)
        omega
      simp [hn]
  | succ n ih =>
    rw [ordersFrom, List.mem_flatMap]
    constructor
    · rintro ⟨⟨i, j⟩, hp, hm⟩
      obtain ⟨rest, hr, rfl⟩ := List.mem_map.mp hm
      obtain ⟨hij, hj⟩ := mem_pairsByRank.mp hp
      have hl := length_contractAt output live (hij.trans hj) hj hij.ne
      obtain ⟨hc, ha⟩ := (ih (by omega)).mp hr
      exact ⟨⟨hij.trans hj, hj, hij.ne, hl ▸ hc⟩, List.forall_mem_cons.mpr ⟨hij, ha⟩⟩
    · rintro ⟨hc, ha⟩
      cases order with
      | nil =>
        have : live.length = 1 := hc
        omega
      | cons p rest =>
        obtain ⟨hi, hj, hij, ht⟩ := hc
        obtain ⟨hlt, ha⟩ := List.forall_mem_cons.mp ha
        have hl := length_contractAt output live hi hj hij
        refine ⟨p, mem_pairsByRank.mpr ⟨hlt, hj⟩, List.mem_map_of_mem ?_⟩
        exact (ih (by omega)).mpr ⟨hl.symm ▸ ht, ha⟩

theorem nodup_ordersFrom (n : Nat) (live : List Group) : (ordersFrom output n live).Nodup := by
  induction n generalizing live with
  | zero => exact List.nodup_singleton _
  | succ n ih =>
    rw [ordersFrom, List.nodup_flatMap]
    refine ⟨fun p _ => (ih _).map (List.cons_injective), (nodup_pairsByRank live).imp
      fun hne => ?_⟩
    -- Orders below two pairs differ in the first pair already.
    intro order hp hq
    obtain ⟨_, -, rfl⟩ := List.mem_map.mp hp
    obtain ⟨_, -, he⟩ := List.mem_map.mp hq
    exact hne (List.cons.inj he).1.symm

theorem head?_ordersFrom {n fuel : Nat} (h : live.length = n + 1) (hf : n ≤ fuel) :
    (ordersFrom output n live).head? = some (greedyFrom output fuel live) := by
  induction n generalizing live fuel with
  | zero =>
    have hp : pairsByRank live = [] := List.eq_nil_iff_forall_not_mem.mpr fun p hm => by
      have := mem_pairsByRank.mp hm
      omega
    cases fuel <;> simp [ordersFrom, greedyFrom, hp]
  | succ n ih =>
    obtain ⟨fuel, rfl⟩ := Nat.exists_eq_add_of_le' (Nat.le_of_add_left_le hf)
    have hne : pairsByRank live ≠ [] :=
      List.ne_nil_of_mem
        (mem_pairsByRank.mpr ⟨Nat.zero_lt_one, by omega⟩ : (0, 1) ∈ pairsByRank live)
    obtain ⟨p, ps, hp⟩ := List.exists_cons_of_ne_nil hne
    obtain ⟨hij, hj⟩ := mem_pairsByRank.mp (hp ▸ List.mem_cons_self : p ∈ pairsByRank live)
    have hl := length_contractAt output live (hij.trans hj) hj hij.ne
    have hi : (ordersFrom output n (contractAt output live p.1 p.2)).head? =
        some (greedyFrom output fuel (contractAt output live p.1 p.2)) := ih (by omega) (by omega)
    rw [ordersFrom, greedyFrom, hp, List.flatMap_cons, List.head?_append, List.head?_map, hi]
    rfl

theorem isComplete_greedyFrom {fuel : Nat} (h : 1 ≤ live.length) (hf : live.length ≤ fuel + 1) :
    IsComplete live.length (greedyFrom output fuel live) := by
  have hl : live.length = live.length - 1 + 1 := by omega
  exact ((mem_ordersFrom hl).mp (List.mem_of_mem_head? (head?_ordersFrom hl (by omega)))).1

end

namespace StepCost

def key (c : StepCost) : ℕ ×ₗ ℕ := toLex (c.compute, c.memory)

variable {a b : StepCost}

theorem le_iff : a.le b = true ↔ a.key ≤ b.key := by
  simp [StepCost.le, key, Prod.Lex.le_iff]

theorem key_max : (a.max b).key = Max.max a.key b.key := by
  rw [StepCost.max]
  split
  next h => exact (max_eq_left (le_iff.mp h)).symm
  next h => exact (max_eq_right (le_of_not_ge (mt le_iff.mpr h))).symm

theorem key_foldl (costs : List StepCost) :
    (costs.foldl StepCost.max a).key = (costs.map StepCost.key).foldl Max.max a.key := by
  induction costs generalizing a with
  | nil => rfl
  | cons c costs ih => rw [List.foldl_cons, ih, key_max, List.map_cons, List.foldl_cons]

theorem compute_max : (a.max b).compute = Max.max a.compute b.compute := by
  rw [StepCost.max]
  split
  next h => exact (max_eq_left (Prod.Lex.monotone_fst _ _ (le_iff.mp h))).symm
  next h => exact (max_eq_right (Prod.Lex.monotone_fst _ _ (le_of_not_ge (mt le_iff.mpr h)))).symm

theorem compute_foldl (costs : List StepCost) :
    (costs.map compute).foldl Max.max a.compute = (costs.foldl StepCost.max a).compute := by
  induction costs generalizing a with
  | nil => rfl
  | cons c costs ih => rw [List.map_cons, List.foldl_cons, ← compute_max, ih, List.foldl_cons]

theorem key_foldl_le_iff {costs : List StepCost} {k : ℕ ×ₗ ℕ} :
    (costs.foldl StepCost.max a).key ≤ k ↔ a.key ≤ k ∧ ∀ c ∈ costs, c.key ≤ k := by
  induction costs generalizing a with
  | nil => simp
  | cons c costs ih =>
    rw [List.foldl_cons, ih, key_max, max_le_iff, List.forall_mem_cons, and_assoc]

theorem key_le_foldl (costs : List StepCost) : a.key ≤ (costs.foldl StepCost.max a).key :=
  (key_foldl_le_iff.mp le_rfl).1

theorem foldl_max_mem (costs : List StepCost) : costs.foldl StepCost.max a ∈ a :: costs := by
  induction costs generalizing a with
  | nil => exact List.mem_cons_self
  | cons c costs ih =>
    have hm : a.max c = a ∨ a.max c = c := by
      rw [StepCost.max]
      exact ite_eq_or_eq _ _ _
    have hi := ih (a := a.max c)
    rw [List.mem_cons] at hi
    rw [List.foldl_cons, List.mem_cons, List.mem_cons]
    rcases hi with hi | hi
    · rw [hi]
      exact hm.imp_right .inl
    · exact .inr (.inr hi)

theorem exists_key_le {costs costs' : List StepCost}
    (h : (costs.foldl StepCost.max .zero).key ≤ (costs'.foldl StepCost.max .zero).key)
    (hne : costs' ≠ []) {c : StepCost} (hc : c ∈ costs) :
    ∃ c' ∈ costs', c.key ≤ c'.key := by
  have hle := ((key_foldl_le_iff.mp le_rfl).2 c hc).trans h
  rcases List.mem_cons.mp (foldl_max_mem (a := .zero) costs') with hz | hm
  · obtain ⟨c', hc'⟩ := List.exists_mem_of_ne_nil costs' hne
    have hzero : StepCost.zero.key ≤ c'.key := bot_le
    rw [hz] at hle
    exact ⟨c', hc', hle.trans hzero⟩
  · exact ⟨_, hm, hle⟩

end StepCost

section

variable (output : Group) (live : List Group) (chosen : List Pair) (cost : StepCost)

def extension (order : List Pair) : Candidate :=
  ⟨(orderCosts output live order).foldl StepCost.max cost, chosen.reverse ++ order⟩

end

def improve (best : Option Candidate) (c : Candidate) : Option Candidate :=
  if best.any (·.cost.le c.cost) then best else some c

section

variable {output : Group} {live : List Group} {chosen : List Pair} {cost : StepCost}
  {best : Option Candidate}

theorem extension_cons (p : Pair) (order : List Pair) :
    extension output (contractAt output live p.1 p.2) (p :: chosen)
        (cost.max (splitAt output live p.1 p.2).cost) order =
      extension output live chosen cost (p :: order) := by
  simp [extension, orderCosts]

/-- Going on only adds to the cost, so nothing below a branch that is left would be taken. -/
theorem foldl_improve_of_any (h : best.any (·.cost.le cost) = true) (orders : List (List Pair)) :
    orders.foldl (fun best order => improve best (extension output live chosen cost order)) best =
      best := by
  induction orders with
  | nil => rfl
  | cons order orders ih =>
    obtain ⟨b, rfl, hb⟩ := (Option.any_eq_true _ _).mp h
    have hle : b.cost.le (extension output live chosen cost order).cost = true :=
      StepCost.le_iff.mpr ((StepCost.le_iff.mp hb).trans (StepCost.key_le_foldl _))
    have hi : improve (some b) (extension output live chosen cost order) = some b := if_pos hle
    rw [List.foldl_cons, hi, ih]

/-- The search looks at all orders below a partial one, as far as the best order found tells. -/
theorem searchFrom_eq_foldl {n : Nat} (h : live.length = n + 1) :
    searchFrom output (n + 1) live chosen cost best = (ordersFrom output n live).foldl
      (fun best order => improve best (extension output live chosen cost order)) best := by
  induction n generalizing live chosen cost best with
  | zero =>
    rw [searchFrom, if_pos h, ordersFrom, List.foldl_cons, List.foldl_nil, improve]
    simp [extension, orderCosts]
  | succ n ih =>
    have hone : ¬ live.length = 1 := by omega
    rw [searchFrom, if_neg hone]
    split
    next hprune => rw [foldl_improve_of_any hprune]
    next =>
      rw [ordersFrom, List.foldl_flatMap]
      apply List.foldl_ext
      rintro best ⟨i, j⟩ hp
      obtain ⟨hij, hj⟩ := mem_pairsByRank.mp hp
      have hl : (contractAt output live i j).length = live.length - 1 :=
        length_contractAt output live (hij.trans hj) hj hij.ne
      rw [List.foldl_map]
      simp only [← extension_cons]
      exact ih (by omega)

end

theorem exists_split_of_mem_argmin {α β : Type} [LinearOrder β] {f : α → β} {as : List α}
    {a : α} (h : a ∈ as.argmin f) :
    ∃ before after, as = before ++ a :: after ∧ (∀ b ∈ before, f a < f b) ∧
      ∀ b ∈ after, f a ≤ f b := by
  classical
  obtain ⟨hm, hle, hfirst⟩ := List.mem_argmin_iff.mp h
  obtain ⟨before, after, rfl, hn⟩ := List.eq_append_cons_of_mem hm
  refine ⟨before, after, rfl, fun b hb => lt_of_not_ge fun hba => ?_,
    fun b hb => hle b (by simp [hb])⟩
  have hi := hfirst b (by simp [hb]) hba
  rw [List.idxOf_append_of_notMem hn, List.idxOf_append_of_mem hb, List.idxOf_cons_self] at hi
  have := List.idxOf_lt_length_iff.mpr hb
  omega

namespace Subscripts

variable (s : Subscripts)

def orderings : List (List Pair) := ordersFrom s.output (s.inputs.length - 1) s.inputs

def orderCost (order : List Pair) : ℕ ×ₗ ℕ :=
  ((orderCosts s.output s.inputs order).map StepCost.key).foldl max (toLex (0, 0))

def orderTime (order : List Pair) : Nat :=
  ((orderCosts s.output s.inputs order).map StepCost.compute).foldl max 0

variable {s}

theorem mem_orderings (h : 1 ≤ s.inputs.length) {order : List Pair} :
    order ∈ s.orderings ↔ IsComplete s.inputs.length order ∧ ∀ p ∈ order, p.1 < p.2 :=
  mem_ordersFrom (by omega)

theorem head?_orderings (h : 1 ≤ s.inputs.length) : s.orderings.head? = some (greedyPairs s) :=
  head?_ordersFrom (by omega) (by omega)

theorem key_extension (order : List Pair) :
    (extension s.output s.inputs [] .zero order).cost.key = s.orderCost order :=
      StepCost.key_foldl _

theorem improve_extension (best : Option (List Pair)) (order : List Pair) :
    improve (best.map (extension s.output s.inputs [] .zero))
      (extension s.output s.inputs [] .zero order) =
      (List.argAux (fun o o' => s.orderCost o < s.orderCost o') best order).map
        (extension s.output s.inputs [] .zero) := by
  cases best with
  | none => rfl
  | some b =>
    simp only [improve, Option.map_some, Option.any_some, StepCost.le_iff, key_extension,
      List.argAux]
    split
    next hle => rw [if_neg (not_lt_of_ge hle), Option.map_some]
    next hle => rw [if_pos (lt_of_not_ge hle), Option.map_some]

theorem cheapestPairs_argmin (h : 1 ≤ s.inputs.length) :
    ∃ order, cheapestPairs s = .ok order ∧ order ∈ s.orderings.argmin s.orderCost := by
  obtain ⟨n, hn⟩ := Nat.exists_eq_add_of_le' h
  have hfold : s.orderings.foldl
        (fun best order => improve best (extension s.output s.inputs [] .zero order))
        (Option.map _ none) =
      (s.orderings.argmin s.orderCost).map (extension s.output s.inputs [] .zero) :=
    List.foldl_hom _ improve_extension
  have hsearch : searchFrom s.output s.inputs.length s.inputs [] .zero none =
      (s.orderings.argmin s.orderCost).map (extension s.output s.inputs [] .zero) := by
    rw [← hfold, orderings, hn, searchFrom_eq_foldl hn]
    rfl
  have hne : s.orderings.argmin s.orderCost ≠ none := by
    rw [Ne, List.argmin_eq_none]
    exact List.ne_nil_of_mem (List.mem_of_mem_head? (head?_orderings h))
  obtain ⟨order, ho⟩ := Option.ne_none_iff_exists'.mp hne
  refine ⟨order, ?_, ho⟩
  rw [cheapestPairs, hsearch, ho]
  rfl

theorem orderTime_eq (order : List Pair) : s.orderTime order = (ofLex (s.orderCost order)).1 := by
  rw [orderTime, ← key_extension]
  exact StepCost.compute_foldl (a := .zero) _

/-- Exhaustive search returns the first cheapest order of a depth-first enumeration that meets every
complete order of ascending pairs once, the greedy one before all others. -/
theorem cheapestPairs_first (h : 1 ≤ s.inputs.length) :
    s.orderings.Nodup ∧
      (∀ order, order ∈ s.orderings ↔ IsComplete s.inputs.length order ∧
        ∀ p ∈ order, p.1 < p.2) ∧
      ∃ best before after, cheapestPairs s = .ok best ∧
        s.orderings = before ++ best :: after ∧
        (∀ order ∈ before, s.orderCost best < s.orderCost order) ∧
        (∀ order ∈ after, s.orderCost best ≤ s.orderCost order) ∧
        ((∀ order ∈ s.orderings, s.orderCost (greedyPairs s) ≤ s.orderCost order) →
          best = greedyPairs s) ∧
        s.orderTime best ≤ s.orderTime (greedyPairs s) := by
  obtain ⟨best, hbest, hmin⟩ := cheapestPairs_argmin h
  have hhead := head?_orderings h
  obtain ⟨before, after, he, hb, ha⟩ := exists_split_of_mem_argmin hmin
  refine ⟨nodup_ordersFrom _ _, fun order => mem_orderings h, best, before, after, hbest, he,
    hb, ha, ?_, ?_⟩
  · intro hg
    rw [he] at hhead
    cases before with
    | nil => exact Option.some.inj hhead
    | cons order before =>
      obtain rfl : order = greedyPairs s := Option.some.inj hhead
      exact absurd (hb _ List.mem_cons_self) (not_lt_of_ge (hg best (List.argmin_mem hmin)))
  · rw [orderTime_eq, orderTime_eq]
    exact Prod.Lex.monotone_fst _ _ (List.le_of_mem_argmin (List.mem_of_mem_head? hhead) hmin)

theorem cheapestPairs_first_of_three :
    let s := Subscripts.mk [['a', 'b', 'c'], ['a'], ['b']] []
    1 ≤ s.inputs.length ∧ greedyPairs s = [(0, 1), (0, 1)] ∧
      ∃ before after, cheapestPairs s = .ok [(1, 2), (0, 1)] ∧
        s.orderings = before ++ [(1, 2), (0, 1)] :: after ∧
          (∀ order ∈ before, s.orderCost [(1, 2), (0, 1)] < s.orderCost order) ∧
            ∀ order ∈ after, s.orderCost [(1, 2), (0, 1)] ≤ s.orderCost order := by
  intro s
  have hbest : cheapestPairs s = .ok [(1, 2), (0, 1)] := by decide
  obtain ⟨-, -, best, before, after, h, he, hb, ha, -⟩ :=
    cheapestPairs_first (s := s) (by decide)
  obtain rfl : [(1, 2), (0, 1)] = best := Except.ok.inj (hbest.symm.trans h)
  exact ⟨by decide, by decide, before, after, hbest, he, hb, ha⟩

end Subscripts

theorem cheapestPairs_least {s : Subscripts} (h : 1 ≤ s.inputs.length) :
    ∃ order, cheapestPairs s = .ok order ∧ IsComplete s.inputs.length order ∧
      ∀ order', IsComplete s.inputs.length order' → (∀ p ∈ order', p.1 < p.2) →
        ((orderCosts s.output s.inputs order).foldl StepCost.max .zero).key ≤
          ((orderCosts s.output s.inputs order').foldl StepCost.max .zero).key := by
  obtain ⟨order, ho, hmin⟩ := Subscripts.cheapestPairs_argmin h
  refine ⟨order, ho, ((Subscripts.mem_orderings h).mp (List.argmin_mem hmin)).1,
    fun order' hc ha => ?_⟩
  have hle := List.le_of_mem_argmin ((Subscripts.mem_orderings h).mpr ⟨hc, ha⟩) hmin
  rw [StepCost.key_foldl, StepCost.key_foldl]
  exact hle

end Einsum
