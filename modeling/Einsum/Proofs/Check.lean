import Einsum.Proofs.Contraction

namespace Einsum

theorem lookup_of_mem {α β : Type} [DecidableEq α] {es : List (α × β)}
    (hn : (es.map Prod.fst).Nodup) {a : α} {b : β} (h : (a, b) ∈ es) :
    es.lookup a = some b := by
  induction es with
  | nil => exact absurd h List.not_mem_nil
  | cons e es ih =>
    obtain ⟨hne, hn⟩ := List.nodup_cons.mp hn
    rcases List.mem_cons.mp h with rfl | h
    · simp
    · have hk : (a == e.1) = false := by
        simpa using fun he : a = e.1 => hne (he ▸ List.mem_map_of_mem h)
      rw [List.lookup, hk]
      exact ih hn h

namespace Live

variable {live rest : Live} {name : String} {g : Group}

theorem put_of_notMem (h : name ∉ live.map Prod.fst) :
    Live.put name g live = live ++ [(name, g)] := by
  induction live with
  | nil => rfl
  | cons e live ih =>
    obtain ⟨hne, hl⟩ := not_or.mp (mt List.mem_cons.mpr h)
    rw [Live.put, if_neg (Ne.symm hne), ih hl, List.cons_append]

theorem remove_perm (hp : live.Perm ((name, g) :: rest)) (h : name ∉ rest.map Prod.fst) :
    (live.remove name).Perm rest := by
  have hr : ((name, g) :: rest).filter (fun e => e.1 ≠ name) = rest := by
    rw [List.filter_cons_of_neg (by simp)]
    apply List.filter_eq_self.mpr
    intro e he
    simpa using fun hn : e.1 = name => h (hn ▸ List.mem_map_of_mem he)
  have hf := hp.filter fun e => e.1 ≠ name
  rwa [hr] at hf

theorem step_eq {s : Step} (hl : live.has s.left = true) (hr : live.has s.right = true)
    (hne : s.left.name ≠ s.right.name)
    (hs : ∀ l ∈ s.result.labels, l ∈ s.left.labels ++ s.right.labels) (position : Nat) :
    live.step position s =
      .ok (((live.remove s.left.name).remove s.right.name).put s.result.name s.result.labels) := by
  have ha : s.result.labels.all (fun l => l ∈ s.left.labels ++ s.right.labels) = true := by
    simpa [List.all_eq_true] using hs
  simp only [Live.step, hl, hr, ha, if_neg hne, Bool.not_true]
  rfl

end Live

def NamedTensor.entry (t : NamedTensor) : String × Group := (t.name, t.labels)

section

variable {output : Group} {n : Nat} {live rest : List NamedTensor} {left right : NamedTensor}
  {steps : List Step}

theorem map_fst_entry (live : List NamedTensor) :
    (live.map NamedTensor.entry).map Prod.fst = live.map NamedTensor.name := by
  rw [List.map_map]
  rfl

theorem live_step (hf : Fresh n (left :: right :: rest))
    (hc : Covers output (left :: right :: rest)) {entries : Live}
    (he : entries.Perm ((left :: right :: rest).map NamedTensor.entry)) (position : Nat) :
    ∃ entries' : Live, entries.step position (stepOf output n left right rest) = .ok entries' ∧
      entries'.Perm (((stepOf output n left right rest).result :: rest).map NamedTensor.entry) := by
  have hn : (entries.map Prod.fst).Nodup := by
    rw [(he.map Prod.fst).nodup_iff, map_fst_entry]
    exact hf.nodup
  obtain ⟨hl, hn'⟩ := List.nodup_cons.mp hf.nodup
  obtain ⟨hr, -⟩ := List.nodup_cons.mp hn'
  have hhas : ∀ t ∈ left :: right :: rest, entries.has t = true := fun t ht => by
    simp [Live.has, lookup_of_mem hn (he.mem_iff.mpr (List.mem_map_of_mem ht) :
      (t.name, t.labels) ∈ entries)]
  have hne : left.name ≠ right.name := fun h => hl (by simp [h])
  have hlabels : ∀ l ∈ (stepOf output n left right rest).result.labels, l ∈ left.labels ++
      right.labels :=
    fun l hm => List.mem_append.mpr ((mem_stepOf_result hc).mp hm).1
  have h₁ := Live.remove_perm he (by rwa [map_fst_entry])
  have h₂ := Live.remove_perm h₁ (by rwa [map_fst_entry])
  have hfresh : (stepOf output n left right rest).result.name ∉
      ((entries.remove left.name).remove right.name).map Prod.fst := by
    rw [(h₂.map Prod.fst).mem_iff, map_fst_entry]
    exact hf.result_notMem
  refine ⟨_, Live.step_eq (hhas left (by simp)) (hhas right (by simp)) hne hlabels position, ?_⟩
  rw [stepOf_left, stepOf_right, Live.put_of_notMem hfresh]
  exact (List.perm_append_singleton _ _).trans (h₂.cons _)

theorem live_run (h : Contracts output n live steps) (hf : Fresh n live) (hc : Covers output live)
    {entries : Live} (he : entries.Perm (live.map NamedTensor.entry)) (position : Nat) :
    Live.run position entries steps = .ok [(finalName, output)] := by
  induction h generalizing entries position with
  | done => rw [List.perm_singleton.mp he]; rfl
  | step live_perm _ ih =>
    have hf' := hf.perm live_perm
    have hc' := hc.perm live_perm
    obtain ⟨entries', hs, he'⟩ := live_step hf' hc' (he.trans (live_perm.map _)) position
    rw [Live.run, hs]
    exact ih hf'.step hc'.step he' (position + 1)

end

section

variable (s : Subscripts)

theorem labels_operandTensors : s.operandTensors.map NamedTensor.labels = s.inputs := by
  simp [Subscripts.operandTensors, operandTensor, List.map_map, Function.comp_def]

theorem axesOf_operandTensors : axesOf s.operandTensors = s.axes := by
  rw [axesOf, labels_operandTensors, Subscripts.axes]

theorem name_operandTensors :
    s.operandTensors.map NamedTensor.name = (List.range s.inputs.length).map operandName := by
  rw [List.range_eq_range', ← List.zipIdx_map_snd 0 s.inputs, List.map_map,
    Subscripts.operandTensors, List.map_map]
  rfl

theorem fresh_operandTensors (n : Nat) : Fresh n s.operandTensors := by
  constructor
  · rw [name_operandTensors]
    exact List.nodup_range.map operandName_injective
  · intro t ht
    have hn : t.name ∈ s.operandTensors.map NamedTensor.name := List.mem_map_of_mem ht
    rw [name_operandTensors] at hn
    obtain ⟨i, -, hi⟩ := List.mem_map.mp hn
    exact .inl ⟨i, hi.symm⟩

variable {s}

theorem covers_operandTensors (hs : s.Validated) : Covers s.output s.operandTensors := by
  intro l hl
  rw [axesOf_operandTensors]
  exact hs.output_subset l hl

/-- A path whose steps contract the operands passes the check. -/
theorem check_of_contracts {steps : List Step} {permutation : Option (List Nat)} (hs : s.Validated)
    (h : Contracts s.output 1 s.operandTensors steps) :
    (Path.mk s steps permutation).check = .ok () := by
  have hr := live_run h (fresh_operandTensors s 1) (covers_operandTensors hs) (List.Perm.refl _) 0
  have hr' : Live.run 0 (s.operandTensors.map fun t => (t.name, t.labels)) steps =
      .ok [(finalName, s.output)] := hr
  simp only [Path.check, hr', if_true]

end

end Einsum
