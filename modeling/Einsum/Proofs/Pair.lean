import Einsum.Path.Order
import Einsum.Proofs.Label

namespace Einsum

section

variable {α β : Type}

theorem map_getD_range (live : List α) (d : α) :
    (List.range live.length).map (live.getD · d) = live := by
  apply List.ext_getElem (by simp)
  intro k h₁ h₂
  simp [h₂]

theorem others_eq (live : List α) (d : α) (i j : Nat) :
    others live i j = ((List.range live.length).filter fun k => k ≠ i ∧ k ≠ j).map
      (live.getD · d) := by
  have hz : live.zipIdx = (List.range live.length).map fun k => (live.getD k d, k) := by
    apply List.ext_getElem (by simp)
    intro k h₁ h₂
    have hk : k < live.length := by simpa using h₁
    simp [hk]
  rw [others, hz, List.filter_map, List.map_map]
  simp [Function.comp_def]

theorem others_map (f : α → β) (live : List α) (i j : Int) :
    others (live.map f) i j = (others live i j).map f := by
  rw [others, others, List.zipIdx_map, List.filter_map, List.map_map, List.map_map]
  rfl

theorem range_perm_pair {n i j : Nat} (hi : i < n) (hj : j < n) (hij : i ≠ j) :
    (List.range n).Perm (i :: j :: (List.range n).filter fun k => k ≠ i ∧ k ≠ j) := by
  apply (List.perm_ext_iff_of_nodup List.nodup_range ?_).mpr
  · intro k
    by_cases hki : k = i <;> by_cases hkj : k = j <;> simp_all
  · simp [List.nodup_cons, hij, List.nodup_range.filter]

theorem perm_others (live : List α) (d : α) {i j : Nat} (hi : i < live.length)
    (hj : j < live.length) (hij : i ≠ j) :
    live.Perm (live.getD i d :: live.getD j d :: others live i j) := by
  have h := (range_perm_pair hi hj hij).map (live.getD · d)
  rw [map_getD_range] at h
  rwa [others_eq live d]

theorem others_comm (live : List α) (i j : Int) : others live i j = others live j i := by
  simp only [others, and_comm]

theorem exists_pair_of_perm {as bs : List α} (d : α) (h : as.Perm bs) {i j : Nat}
    (hi : i < as.length) (hj : j < as.length) (hij : i ≠ j) :
    ∃ i' j', i' < bs.length ∧ j' < bs.length ∧ i' ≠ j' ∧ bs.getD i' d = as.getD i d ∧
      bs.getD j' d = as.getD j d ∧ (others bs i' j').Perm (others as i j) := by
  have hp := h.symm.trans (perm_others as d hi hj hij)
  obtain ⟨i', hi', hai⟩ := List.mem_iff_getElem.mp (hp.mem_iff.mpr List.mem_cons_self)
  have hrest : (bs.eraseIdx i').Perm (as.getD j d :: others as i j) := by
    have he := (List.getElem_cons_eraseIdx_perm hi').trans hp
    rwa [hai, List.perm_cons] at he
  obtain ⟨j', hj', hne, haj⟩ :=
    List.mem_eraseIdx_iff_getElem.mp (hrest.mem_iff.mpr List.mem_cons_self)
  have hdi : bs.getD i' d = as.getD i d := by rw [List.getD_eq_getElem _ _ hi', hai]
  have hdj : bs.getD j' d = as.getD j d := by rw [List.getD_eq_getElem _ _ hj', haj]
  refine ⟨i', j', hi', hj', hne.symm, hdi, hdj, ?_⟩
  have hb := (perm_others bs d hi' hj' hne.symm).symm.trans hp
  rwa [hdi, hdj, List.perm_cons, List.perm_cons] at hb

theorem others_set (live : List α) (d a : α) (i j : Nat) :
    others (live.set i a) i j = others live i j := by
  rw [others_eq _ d, others_eq _ d, List.length_set]
  apply List.map_congr_left
  intro k hk
  obtain ⟨-, hki, -⟩ : k ∈ List.range live.length ∧ k ≠ i ∧ k ≠ j := by simpa using hk
  rw [List.getD_eq_getElem?_getD, List.getD_eq_getElem?_getD, List.getElem?_set_ne (Ne.symm hki)]

/-- The first position takes the new member, whichever of the two comes first in the list. -/
theorem replacePair_perm (live : List α) (a : α) {i j : Nat} (hi : i < live.length)
    (hj : j < live.length) (hij : i ≠ j) :
    (replacePair live i j a).Perm (a :: others live i j) := by
  have hj' : j < (live.set i a).length := by simpa using hj
  have hp := perm_others (live.set i a) a (by simpa using hi) hj' hij
  have he := List.getElem_cons_eraseIdx_perm hj'
  rw [others_set live a a i j, List.getD_eq_getElem _ _ hj'] at hp
  have ha : (live.set i a).getD i a = a := by simp [List.getD_eq_getElem?_getD, hi]
  rw [ha] at hp
  exact (List.perm_cons _).mp ((he.trans hp).trans (List.Perm.swap _ _ _))

theorem length_others (live : List α) {i j : Nat} (hi : i < live.length) (hj : j < live.length)
    (hij : i ≠ j) : (others live i j).length + 2 = live.length := by
  cases live with
  | nil => simp at hi
  | cons a live => simpa using (perm_others (a :: live) a hi hj hij).length_eq.symm

theorem length_replacePair (live : List α) (a : α) {i j : Nat} (hi : i < live.length)
    (hj : j < live.length) (hij : i ≠ j) : (replacePair live i j a).length + 1 = live.length := by
  have h := (replacePair_perm live a hi hj hij).length_eq
  have ho := length_others live hi hj hij
  rw [List.length_cons] at h
  omega

theorem replacePair_map (f : α → β) (live : List α) (i j : Nat) (a : α) :
    replacePair (live.map f) i j (f a) = (replacePair live i j a).map f := by
  rw [replacePair, replacePair, ← List.map_set, List.eraseIdx_map]

end

section

variable {left right needed : Group} {l : Label}

theorem mem_split_summed :
    l ∈ (split left right needed).summed ↔ (l ∈ left ∨ l ∈ right) ∧ l ∉ needed := by
  simp [split]

theorem mem_split_residual :
    l ∈ (split left right needed).residual ↔ (l ∈ left ∨ l ∈ right) ∧ l ∈ needed := by
  simp [split]

theorem nodup_split_summed : (split left right needed).summed.Nodup :=
  nodup_sortLabels ((nodup_firsts _).filter _)

theorem nodup_split_residual : (split left right needed).residual.Nodup :=
  (nodup_firsts _).filter _

theorem split_congr {left' right' needed' : Group}
    (h : ∀ l, l ∈ left ∨ l ∈ right ↔ l ∈ left' ∨ l ∈ right')
    (hn : ∀ l, l ∈ needed ↔ l ∈ needed') :
    (split left right needed).cost = (split left' right' needed').cost ∧
      (split left right needed).residual.toFinset =
        (split left' right' needed').residual.toFinset := by
  have hr : (split left right needed).residual.Perm (split left' right' needed').residual := by
    apply (List.perm_ext_iff_of_nodup nodup_split_residual nodup_split_residual).mpr
    intro l
    rw [mem_split_residual, mem_split_residual, h, hn]
  have hs : (split left right needed).summed.Perm (split left' right' needed').summed := by
    apply (List.perm_ext_iff_of_nodup nodup_split_summed nodup_split_summed).mpr
    intro l
    rw [mem_split_summed, mem_split_summed, h, hn]
  refine ⟨?_, List.toFinset_eq_of_perm _ _ hr⟩
  rw [Split.cost, Split.cost, hr.length_eq, hs.length_eq]

end

end Einsum
