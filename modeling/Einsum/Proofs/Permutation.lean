import Einsum.Proofs.Plan

namespace Einsum

def Step.arrangement (s : Step) (output : Group) : Group :=
  (firsts (s.left.labels ++ s.right.labels)).filter (· ∈ output)

theorem mem_iff_of_sameLabels {a b : Group} (h : sameLabels a b = true) (l : Label) :
    l ∈ b ↔ l ∈ a := by
  rw [sameLabels, Bool.and_eq_true, List.all_eq_true, List.all_eq_true] at h
  exact ⟨fun hl => by simpa using h.2 l hl, fun hl => by simpa using h.1 l hl⟩

theorem split_residual_of_sameLabels {left right output rest : Group}
    (h : sameLabels (split left right (output ++ rest)).residual output = true) :
    (split left right (output ++ rest)).residual =
      (firsts (left ++ right)).filter (· ∈ output) := by
  apply List.filter_congr
  intro l hl
  have hm : l ∈ output ↔ l ∈ (split left right (output ++ rest)).residual :=
    mem_iff_of_sameLabels h l
  rw [mem_split_residual, ← List.mem_append] at hm
  exact decide_eq_decide.mpr ⟨fun hn => hm.mpr ⟨mem_firsts.mp hl, hn⟩, fun h => (hm.mp h).2⟩

/-- The permutation recorded with some steps rearranges what the last of them leaves, which are the
labels of the result. -/
theorem stepsFrom_permutation {output : Group} {n : Nat} {live : List NamedTensor}
    {order : List (Except Error (Int × Int))} {steps : List Step} {perm : Option (List Nat)}
    (hne : order ≠ []) (h : Path.stepsFrom output n live order = .ok (steps, perm)) :
    ∃ last, steps.getLast? = some last ∧
      perm = axisPermutation (last.arrangement output) output ∧
      ∀ l, l ∈ output ↔ l ∈ last.arrangement output := by
  fun_induction Path.stepsFrom output n live order generalizing steps perm with
  | case1 => exact absurd rfl hne
  | case2 => cases h
  | case3 =>
    rename_i parts _ hsame
    obtain ⟨rfl, rfl⟩ := Prod.mk.inj (Except.ok.inj h)
    have he : parts.residual = _ := split_residual_of_sameLabels hsame
    have hm := mem_iff_of_sameLabels hsame
    rw [he] at hm ⊢
    exact ⟨_, rfl, rfl, hm⟩
  | case4 => cases h
  | case5 => cases h
  | case6 =>
    rename_i hr _ tail perm' hs ih
    obtain ⟨rfl, rfl⟩ := Prod.mk.inj (Except.ok.inj h)
    obtain ⟨last, hl, hp⟩ := ih (by simpa using hr) hs
    exact ⟨last, by rw [List.getLast?_cons, hl]; rfl, hp⟩
  | case7 => cases h

theorem exists_perm_idxOf {residual output : Group} (hr : residual.Nodup) (ho : output.Nodup)
    (h : ∀ l, l ∈ output ↔ l ∈ residual) :
    ∃ π : Equiv.Perm (Fin output.length), ∀ t, (π t : Nat) = residual.idxOf output[t] := by
  have hlen : residual.length = output.length :=
    ((List.perm_ext_iff_of_nodup hr ho).mpr fun l => (h l).symm).length_eq
  exact ⟨((ho.getEquiv output).trans (Equiv.subtypeEquivRight h)).trans
    ((hr.getEquiv residual).symm.trans (finCongr hlen)), fun _ => rfl⟩

namespace Path

theorem exists_last_of_ofOrder {s : Subscripts} {order : List (Int × Int)} {p : Path}
    (hp : ofOrder s order = .ok p) (hne : p.steps ≠ []) :
    ∃ last, p.steps.getLast? = some last ∧
      p.permutation = axisPermutation (last.arrangement s.output) s.output ∧
      ∀ l, l ∈ s.output ↔ l ∈ last.arrangement s.output := by
  rw [ofOrder, ofEntries] at hp
  split at hp
  · cases hp
  · split at hp
    · cases hp
    next steps perm hsteps =>
      obtain rfl := Except.ok.inj hp
      refine stepsFrom_permutation (fun he => hne ?_) hsteps
      rw [he, stepsFrom] at hsteps
      exact (Prod.mk.inj (Except.ok.inj hsteps)).1.symm

/-- A path records no permutation just if its last step leaves the labels in the order of the
result; otherwise it records where each axis of the result stands among them. -/
theorem ofOrder_permutation {s : Subscripts} (hs : s.Validated) (hk : 2 ≤ s.inputs.length)
    {order : List Pair} (ho : IsComplete s.inputs.length order) :
    ∃ p last, ofOrder s (integerOrder order) = .ok p ∧ p.steps.getLast? = some last ∧
      (p.permutation = none ↔ last.arrangement s.output = s.output) ∧
      (last.arrangement s.output ≠ s.output → ∃ π : Equiv.Perm (Fin s.output.length),
        p.permutation = some (List.ofFn fun t => (π t : Nat)) ∧
          ∀ t, (last.arrangement s.output)[(π t : Nat)]? = some s.output[t]) := by
  obtain ⟨p, hp, rfl, hne, -, -⟩ := ofOrder_contracts hs hk ho
  obtain ⟨last, hlast, hperm, hm⟩ := exists_last_of_ofOrder hp hne
  have hn : (last.arrangement p.subscripts.output).Nodup := (nodup_firsts _).filter _
  refine ⟨p, last, hp, hlast, ?_, fun hd => ?_⟩
  · rw [hperm, axisPermutation]
    split <;> simp_all
  · obtain ⟨π, hπ⟩ := exists_perm_idxOf hn hs.output_nodup hm
    refine ⟨π, ?_, fun t => ?_⟩
    · rw [hperm, axisPermutation, if_neg hd]
      refine congrArg some (List.ext_getElem (by simp) fun i hi _ => ?_)
      rw [List.getElem_map, List.getElem_ofFn, hπ]
      rfl
    · rw [hπ]
      exact List.getElem?_idxOf ((hm _).mp (List.getElem_mem _))

theorem ofOrder_permutation_of_descending :
    let s := Subscripts.mk [['a', 'a', 'b'], ['b', 'c'], [], ['c', 'd', 'e']] ['b', 'd', 'a', 'e']
    s.Validated ∧ IsComplete s.inputs.length [(3, 0), (2, 1), (1, 0)] ∧
      ∃ p, ofOrder s (integerOrder [(3, 0), (2, 1), (1, 0)]) = .ok p ∧
        p.permutation = some [3, 0, 2, 1] ∧
        ∃ π : Equiv.Perm (Fin s.output.length), p.permutation =
          some (List.ofFn fun t => (π t : Nat)) ∧
          ∀ t, ['d', 'e', 'a', 'b'][(π t : Nat)]? = some s.output[t] := by
  intro s
  have hs : s.Validated := by decide
  have ho : IsComplete s.inputs.length [(3, 0), (2, 1), (1, 0)] := by decide
  obtain ⟨p, last, hp, hlast, -, hperm⟩ := ofOrder_permutation hs (by decide) ho
  have hout : (ofOrder s (integerOrder [(3, 0), (2, 1), (1, 0)])).toOption.map
      (fun p => (p.permutation, p.steps.getLast?.map (·.arrangement s.output))) =
        some (some [3, 0, 2, 1], some ['d', 'e', 'a', 'b']) := by decide
  rw [hp] at hout
  obtain ⟨hrecorded, harranged⟩ := Prod.mk.inj (Option.some.inj hout)
  rw [hlast] at harranged
  have he : last.arrangement s.output = _ := Option.some.inj harranged
  rw [he] at hperm
  exact ⟨hs, ho, p, hp, hrecorded, hperm (by decide)⟩

end Path

end Einsum
