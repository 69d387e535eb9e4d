import Einsum.Proofs.Check

namespace Einsum

inductive Node where
  | operand (position : Nat)
  | step (position : Nat)
deriving DecidableEq, Repr

namespace Live

variable {live live' : Live} {name : String} {g : Group} {position : Nat} {s : Step}

theorem step_eq_ok (h : live.step position s = .ok live') :
    live.has s.left = true ∧ live.has s.right = true ∧ s.left.name ≠ s.right.name ∧
      (∀ l ∈ s.result.labels, l ∈ s.left.labels ++ s.right.labels) ∧
        live' = ((live.remove s.left.name).remove s.right.name).put s.result.name
          s.result.labels := by
  rw [Live.step] at h
  split at h
  next => cases h
  next hl =>
    split at h
    next => cases h
    next hr =>
      split at h
      next => cases h
      next hne =>
        split at h
        next => cases h
        next hs =>
          cases h
          simp only [Bool.not_eq_true', Bool.not_eq_false] at hl hr hs
          exact ⟨hl, hr, hne, fun l hm => of_decide_eq_true (List.all_eq_true.mp hs l hm), rfl⟩

theorem mem_names_of_has {t : NamedTensor} (h : live.has t = true) :
    t.name ∈ live.map Prod.fst := by
  obtain ⟨before, after, rfl, -⟩ := List.lookup_eq_some_iff.mp (beq_iff_eq.mp h)
  simp

theorem names_remove (hn : (live.map Prod.fst).Nodup) (name : String) :
    (live.remove name).map Prod.fst = (live.map Prod.fst).erase name := by
  rw [hn.erase_eq_filter, List.filter_map]
  congr 1
  apply List.filter_congr
  intro e _
  by_cases he : e.1 = name <;> simp [he]

theorem names_put (hn : (live.map Prod.fst).Nodup) (name : String) (g : Group) :
    ((live.put name g).map Prod.fst).Perm (name :: (live.map Prod.fst).erase name) := by
  induction live with
  | nil => exact .refl _
  | cons e live ih =>
    by_cases he : e.1 = name
    · subst he
      simp [Live.put]
    · have hi := (ih hn.of_cons).cons e.1
      rw [Live.put, if_neg he, List.map_cons, List.map_cons,
        List.erase_cons_tail (by simpa using he)]
      exact hi.trans (.swap _ _ _)

theorem names_step (hn : (live.map Prod.fst).Nodup) (h : live.step position s = .ok live') :
    ∃ rest,
      (live.map Prod.fst).Perm (s.left.name :: s.right.name :: rest) ∧
        (live'.map Prod.fst).Perm (s.result.name :: rest.erase s.result.name) := by
  obtain ⟨hl, hr, hne, -, rfl⟩ := step_eq_ok h
  have hr' : s.right.name ∈ (live.map Prod.fst).erase s.left.name :=
    (List.mem_erase_of_ne hne.symm).mpr (mem_names_of_has hr)
  have hrest : ((live.remove s.left.name).remove s.right.name).map Prod.fst =
      ((live.map Prod.fst).erase s.left.name).erase s.right.name := by
    rw [names_remove _ s.right.name, names_remove hn]
    rw [names_remove hn]
    exact hn.erase _
  refine ⟨((live.map Prod.fst).erase s.left.name).erase s.right.name, ?_, ?_⟩
  · exact (List.perm_cons_erase (mem_names_of_has hl)).trans ((List.perm_cons_erase hr').cons _)
  · rw [← hrest]
    apply names_put
    rw [hrest]
    exact (hn.erase _).erase _

end Live

namespace Path

variable (p : Path)

def resultName? (k : Nat) : Option String := p.steps[k]?.map (·.result.name)

/-- The tensor that a name stands for before step `k`: the latest result of that name, or else the
operand. -/
def node? : Nat → String → Option Node
  | 0, name => ((List.range p.subscripts.inputs.length).find? (operandName · = name)).map .operand
  | k + 1, name => if p.resultName? k = some name then some (.step k) else node? k name

def readBy (k : Nat) : List Node :=
  p.steps[k]?.toList.flatMap fun s => s.reads.filterMap fun t => p.node? k t.name

/-- The tensor whose name step `k` gives to its result, if no step has read that tensor. -/
def overwrittenBy (k : Nat) : Option Node :=
  ((p.resultName? k).bind (p.node? k)).filter (· ∉ (List.range (k + 1)).flatMap p.readBy)

def overwritten : List Node := (List.range p.steps.length).filterMap p.overwrittenBy

/-- Steps that form a tree: each operand is an input of one step, and so is each result but the last
one, of a later step. -/
structure IsTree : Prop where
  length : p.steps.length + 1 = p.subscripts.inputs.length
  operands : ∀ i < p.subscripts.inputs.length, ∃! k, .operand i ∈ p.readBy k
  results : ∀ j, j + 1 < p.steps.length → ∃! k, j < k ∧ .step j ∈ p.readBy k

def madeBefore (k : Nat) : List Node :=
  (List.range p.subscripts.inputs.length).map .operand ++ (List.range k).map .step

def usedBy (k : Nat) : List Node := p.readBy k ++ (p.overwrittenBy k).toList

def givenName : Node → Option String
  | .operand i => some (operandName i)
  | .step j => p.resultName? j

section

variable {p} {k : Nat} {name : String} {o : Node}

theorem nodup_madeBefore (k : Nat) : (p.madeBefore k).Nodup := by
  refine List.nodup_append.mpr ⟨List.nodup_range.map fun _ _ h => Node.operand.inj h,
    List.nodup_range.map fun _ _ h => Node.step.inj h, ?_⟩
  rintro _ ha _ hb rfl
  obtain ⟨_, -, rfl⟩ := List.mem_map.mp ha
  obtain ⟨_, -, h⟩ := List.mem_map.mp hb
  cases h

theorem madeBefore_succ (k : Nat) : p.madeBefore (k + 1) = p.madeBefore k ++ [.step k] := by
  simp [madeBefore, List.range_succ]

theorem step_mem_madeBefore {j : Nat} : .step j ∈ p.madeBefore k ↔ j < k := by simp [madeBefore]

theorem mem_madeBefore_mono {j : Nat} (h : j ≤ k) (ho : o ∈ p.madeBefore j) :
    o ∈ p.madeBefore k := by
  cases o with
  | operand i => simpa [madeBefore] using ho
  | step i => exact step_mem_madeBefore.mpr ((step_mem_madeBefore.mp ho).trans_le h)

theorem node?_spec (h : p.node? k name = some o) :
    p.givenName o = some name ∧ o ∈ p.madeBefore k := by
  induction k with
  | zero =>
    obtain ⟨i, hi, rfl⟩ := Option.map_eq_some_iff.mp h
    have hn := List.find?_some hi
    have hm := List.mem_of_find?_eq_some hi
    exact ⟨congrArg some (of_decide_eq_true hn), by simpa [madeBefore] using hm⟩
  | succ k ih =>
    rw [node?] at h
    split at h
    next hn =>
      cases h
      exact ⟨hn, step_mem_madeBefore.mpr (Nat.lt_succ_self k)⟩
    next => exact (ih h).imp_right (mem_madeBefore_mono (Nat.le_succ k))

theorem notMem_of_node? (h : p.node? k name = some o) {j : Nat} (hj : j < k)
    (hn : p.resultName? j = some name) :
    o ∉ p.madeBefore j := by
  induction k with
  | zero => omega
  | succ k ih =>
    rw [node?] at h
    split at h
    next =>
      cases h
      rw [step_mem_madeBefore]
      omega
    next hne =>
      have hjk : j ≠ k := fun he => hne (he ▸ hn)
      exact ih h (by omega)

theorem mem_readBy :
    o ∈ p.readBy k ↔ ∃ s, p.steps[k]? = some s ∧
      ∃ t ∈ s.reads, p.node? k t.name = some o := by
  simp [readBy]

theorem overwrittenBy_eq_some : p.overwrittenBy k = some o ↔
    (∃ name, p.resultName? k = some name ∧ p.node? k name = some o) ∧
      ∀ j ≤ k, o ∉ p.readBy j := by
  simp [overwrittenBy, Option.filter_eq_some_iff, Option.bind_eq_some_iff]

theorem mem_usedBy : o ∈ p.usedBy k ↔ o ∈ p.readBy k ∨ p.overwrittenBy k = some o := by
  simp [usedBy, eq_comm]

theorem mem_madeBefore_of_usedBy (h : o ∈ p.usedBy k) : o ∈ p.madeBefore k := by
  rcases mem_usedBy.mp h with hread | hover
  · obtain ⟨_, _, _, _, ho⟩ := mem_readBy.mp hread
    exact (node?_spec ho).2
  · obtain ⟨⟨_, _, ho⟩, -⟩ := overwrittenBy_eq_some.mp hover
    exact (node?_spec ho).2

theorem lt_of_mem_usedBy (h : o ∈ p.usedBy k) : k < p.steps.length := by
  by_contra hk
  have hn : p.steps[k]? = none := List.getElem?_eq_none (not_lt.mp hk)
  simp [usedBy, readBy, overwrittenBy, resultName?, hn] at h

theorem node?_inj {name' : String} (h : p.node? k name = some o) (h' : p.node? k name' = some o) :
    name = name' :=
  Option.some.inj ((node?_spec h).1.symm.trans (node?_spec h').1)

theorem node?_ne_of_overwrittenBy {j : Nat} (h : p.overwrittenBy j = some o) (hj : j < k) :
    p.node? k name ≠ some o := by
  intro ho
  obtain ⟨⟨r, hr, hor⟩, -⟩ := overwrittenBy_eq_some.mp h
  obtain ⟨hgiven, hmade⟩ := node?_spec hor
  obtain rfl : r = name := Option.some.inj (hgiven.symm.trans (node?_spec ho).1)
  exact notMem_of_node? ho hj hr hmade

end

/-- The names of live tensors stand for what was made and not used up, and each step has read
two. -/
structure Accounted (k : Nat) (names : List String) : Prop where
  nodup : names.Nodup
  resolved : ∀ name ∈ names, ∃ o, p.node? k name = some o
  reads : ((List.range k).flatMap p.readBy).length = 2 * k
  perm : (names.filterMap (p.node? k) ++ (List.range k).flatMap p.usedBy).Perm (p.madeBefore k)

section

variable {p} {k : Nat} {names rest : List String}

theorem Accounted.of_perm (h : p.Accounted k names) (hp : names.Perm rest) :
    p.Accounted k rest where
  nodup := hp.nodup_iff.mp h.nodup
  resolved name hn := h.resolved name (hp.mem_iff.mpr hn)
  reads := h.reads
  perm := ((hp.filterMap _).append_right _).symm.trans h.perm

theorem accounted_operands : p.Accounted 0 (p.subscripts.operandTensors.map NamedTensor.name) := by
  have ho : ∀ i ∈ List.range p.subscripts.inputs.length,
      p.node? 0 (operandName i) = some (.operand i) := fun i hi => by
    have hf : ((List.range p.subscripts.inputs.length).find?
        (operandName · = operandName i)).isSome = true := by
      rw [List.find?_isSome]
      exact ⟨i, hi, by simp⟩
    obtain ⟨j, hj⟩ := Option.isSome_iff_exists.mp hf
    have he : operandName j = operandName i := by simpa using List.find?_some hj
    rw [node?, hj, operandName_injective he, Option.map_some]
  rw [name_operandTensors]
  refine ⟨List.nodup_range.map operandName_injective, ?_, rfl, ?_⟩
  · rw [List.forall_mem_map]
    exact fun i hi => ⟨_, ho i hi⟩
  · rw [List.filterMap_map, List.filterMap_congr (g := fun i => some (.operand i)) ho]
    simp [madeBefore]

section

variable {s : Step} (hs : p.steps[k]? = some s)
  (h : p.Accounted k (s.left.name :: s.right.name :: rest))

include hs h

theorem Accounted.overwrittenBy_of_mem (hm : s.result.name ∈ rest) :
    p.overwrittenBy k = p.node? k s.result.name := by
  have hmem : s.result.name ∈ s.left.name :: s.right.name :: rest := by simp [hm]
  obtain ⟨o, ho⟩ := h.resolved _ hmem
  rw [ho, overwrittenBy_eq_some]
  refine ⟨⟨_, by rw [resultName?, hs, Option.map_some], ho⟩, fun j hj hread => ?_⟩
  by_cases hjk : j = k
  · subst hjk
    obtain ⟨s', hs', t, ht, hot⟩ := mem_readBy.mp hread
    obtain rfl : s = s' := Option.some.inj (hs.symm.trans hs')
    have hname := node?_inj hot ho
    obtain ⟨hl, hn⟩ := List.nodup_cons.mp h.nodup
    obtain ⟨hr, -⟩ := List.nodup_cons.mp hn
    rcases List.mem_cons.mp ht with rfl | ht
    · exact hl (List.mem_cons_of_mem _ (hname ▸ hm))
    · obtain rfl := List.mem_singleton.mp ht
      exact hr (hname ▸ hm)
  · have hlive : o ∈ (s.left.name :: s.right.name :: rest).filterMap (p.node? k) :=
      List.mem_filterMap.mpr ⟨_, hmem, ho⟩
    have hused : o ∈ (List.range k).flatMap p.usedBy :=
      List.mem_flatMap.mpr ⟨j, by simp; omega, mem_usedBy.mpr (.inl hread)⟩
    have hn := h.perm.nodup_iff.mpr (nodup_madeBefore k)
    exact (List.nodup_append.mp hn).2.2 o hlive o hused rfl

theorem Accounted.overwrittenBy_of_notMem (hm : s.result.name ∉ rest) :
    p.overwrittenBy k = none := by
  rw [Option.eq_none_iff_forall_ne_some]
  intro o hover
  obtain ⟨⟨r, hr, ho⟩, hunread⟩ := overwrittenBy_eq_some.mp hover
  obtain rfl : s.result.name = r := by simpa [resultName?, hs] using hr
  rcases List.mem_append.mp (h.perm.mem_iff.mpr (node?_spec ho).2) with hlive | hused
  · obtain ⟨name, hmem, hname⟩ := List.mem_filterMap.mp hlive
    obtain rfl := node?_inj hname ho
    obtain ⟨t, ht, hname⟩ : ∃ t ∈ s.reads, t.name = s.result.name := by
      simpa [Step.reads, hm, eq_comm] using hmem
    exact hunread k le_rfl (mem_readBy.mpr ⟨s, hs, t, ht, hname ▸ ho⟩)
  · obtain ⟨j, hj, hused⟩ := List.mem_flatMap.mp hused
    rw [List.mem_range] at hj
    rcases mem_usedBy.mp hused with hread | hover
    · exact hunread j hj.le hread
    · exact node?_ne_of_overwrittenBy hover hj ho

/-- One more step: its result is live, and what it used up is no longer. -/
theorem Accounted.step : p.Accounted (k + 1) (s.result.name :: rest.erase s.result.name) := by
  have hname : p.resultName? k = some s.result.name := by rw [resultName?, hs, Option.map_some]
  have hself : p.node? (k + 1) s.result.name = some (.step k) := if_pos hname
  have hn : rest.Nodup := h.nodup.of_cons.of_cons
  have hrest : ∀ name ∈ rest.erase s.result.name, p.node? (k + 1) name = p.node? k name := by
    intro name hm
    refine if_neg fun he => hn.not_mem_erase (a := s.result.name) ?_
    rwa [Option.some.inj (hname.symm.trans he)] at hm ⊢
  obtain ⟨left, hleft⟩ := h.resolved s.left.name (by simp)
  obtain ⟨right, hright⟩ := h.resolved s.right.name (by simp)
  have hread : p.readBy k = [left, right] := by simp [readBy, hs, Step.reads, hleft, hright]
  refine ⟨List.nodup_cons.mpr ⟨hn.not_mem_erase, hn.erase _⟩, ?_, ?_, ?_⟩
  · rw [List.forall_mem_cons]
    refine ⟨⟨_, hself⟩, fun name hm => ?_⟩
    rw [hrest name hm]
    exact h.resolved name (by simp [List.mem_of_mem_erase hm])
  · rw [List.range_succ, List.flatMap_append, List.length_append, h.reads,
      List.flatMap_singleton, hread]
    rfl
  · have hlost : (rest.filterMap (p.node? k)).Perm
        ((p.overwrittenBy k).toList ++ (rest.erase s.result.name).filterMap (p.node? k)) := by
      by_cases hm : s.result.name ∈ rest
      · obtain ⟨o, ho⟩ := h.resolved s.result.name (by simp [hm])
        have hp := (List.perm_cons_erase hm).filterMap (p.node? k)
        rw [List.filterMap_cons_some ho] at hp
        rwa [h.overwrittenBy_of_mem hs hm, ho]
      · rw [h.overwrittenBy_of_notMem hs hm, List.erase_of_not_mem hm]
        exact .refl _
    have hperm := h.perm
    rw [List.filterMap_cons_some hleft, List.filterMap_cons_some hright] at hperm
    rw [List.filterMap_cons_some hself, List.filterMap_congr hrest, madeBefore_succ,
      List.range_succ, List.flatMap_append, List.flatMap_singleton, usedBy, hread]
    refine List.perm_iff_count.mpr fun o => ?_
    have hc := hperm.count_eq o
    have hl := hlost.count_eq o
    simp only [List.count_append, List.count_cons, List.count_nil] at hc hl ⊢
    omega

end

theorem accounted_run {before after : List Step} (h : p.steps = before ++ after) {live final : Live}
    (hrun : Live.run before.length live after = .ok final)
    (ha : p.Accounted before.length (live.map Prod.fst)) :
    p.Accounted p.steps.length (final.map Prod.fst) := by
  induction after generalizing before live with
  | nil =>
    cases hrun
    rwa [h, List.append_nil]
  | cons s after ih =>
    rw [Live.run] at hrun
    split at hrun
    next => cases hrun
    next live' hstep =>
      obtain ⟨rest, hp, hp'⟩ := Live.names_step ha.nodup hstep
      have hs : p.steps[before.length]? = some s := by rw [h]; simp
      have hnext := ((ha.of_perm hp).step hs).of_perm hp'.symm
      have hlen : before.length + 1 = (before ++ [s]).length := by simp
      rw [hlen] at hrun hnext
      exact ih (by rw [h, List.append_assoc, List.singleton_append]) hrun hnext

theorem accounted_of_check (h : p.check = .ok ()) : p.Accounted p.steps.length [finalName] := by
  rw [check] at h
  split at h
  next => cases h
  next live hrun =>
    split at h
    next hlive =>
      subst hlive
      have hstart := accounted_operands (p := p)
      rw [← map_fst_entry] at hstart
      exact accounted_run (List.nil_append p.steps).symm hrun hstart
    next => cases h

/-- What the steps use up is all there is but the last result. -/
theorem usedBy_perm (h : p.check = .ok ()) : ∃ m, p.steps.length = m + 1 ∧
    ((List.range (m + 1)).flatMap p.usedBy).Perm (p.madeBefore m) := by
  have ha := accounted_of_check h
  obtain ⟨o, ho⟩ := ha.resolved finalName (List.mem_singleton_self _)
  cases hm : p.steps.length with
  | zero =>
    rw [hm] at ho
    obtain ⟨hgiven, hmade⟩ := node?_spec ho
    obtain ⟨i, -, rfl⟩ : ∃ i < p.subscripts.inputs.length, .operand i = o := by
      simpa [madeBefore] using hmade
    exact absurd (Option.some.inj hgiven) (operandName_ne_intermediateName i 0)
  | succ m =>
    refine ⟨m, rfl, ?_⟩
    have hp := ha.perm
    rw [hm] at hp ho
    rw [madeBefore_succ, List.filterMap_cons_some ho, List.filterMap_nil,
      List.singleton_append] at hp
    -- Nothing used up is the last result, since a step reads and overwrites what was there before
    -- it.
    have hlast : .step m ∉ (List.range (m + 1)).flatMap p.usedBy := fun hmem => by
      obtain ⟨j, hj, hu⟩ := List.mem_flatMap.mp hmem
      have := step_mem_madeBefore.mp (mem_madeBefore_of_usedBy hu)
      rw [List.mem_range] at hj
      omega
    have hmem : .step m ∈ o :: (List.range (m + 1)).flatMap p.usedBy := hp.mem_iff.mpr (by simp)
    obtain rfl := (List.mem_cons.mp hmem).resolve_right hlast
    exact (List.perm_cons _).mp (hp.trans (List.perm_append_singleton _ _))

theorem existsUnique_usedBy (h : p.check = .ok ()) {o : Node}
    (ho : o ∈ p.madeBefore (p.steps.length - 1)) :
    ∃! k, o ∈ p.usedBy k := by
  obtain ⟨m, hm, hp⟩ := usedBy_perm h
  rw [hm, Nat.add_sub_cancel] at ho
  have hdisjoint := (List.nodup_flatMap.mp (hp.nodup_iff.mpr (nodup_madeBefore m))).2
  obtain ⟨k, hk, hu⟩ := List.mem_flatMap.mp (hp.mem_iff.mpr ho)
  refine ⟨k, hu, fun j hj => ?_⟩
  by_contra hne
  have hjm : j ∈ List.range (m + 1) := List.mem_range.mpr (hm ▸ lt_of_mem_usedBy hj)
  have : Std.Symm (Function.onFun List.Disjoint p.usedBy) := ⟨fun _ _ hd => hd.symm⟩
  exact hdisjoint.forall hjm hk hne hj hu

theorem length_overwritten (h : p.check = .ok ()) :
    p.steps.length + p.overwritten.length + 1 = p.subscripts.inputs.length := by
  have hreads := (accounted_of_check h).reads
  obtain ⟨m, hm, hp⟩ := usedBy_perm h
  have hover : p.overwritten =
      (List.range (m + 1)).flatMap fun k => (p.overwrittenBy k).toList := by
    rw [overwritten, hm, List.filterMap_eq_flatMap_toList]
  have hsplit : ((List.range (m + 1)).flatMap p.readBy ++ p.overwritten).Perm (p.madeBefore m) := by
    rw [hover]
    exact (List.flatMap_append_perm _ _ _).trans hp
  have hlen := hsplit.length_eq
  rw [hm] at hreads
  simp only [List.length_append, hreads, madeBefore, List.length_map, List.length_range] at hlen
  omega

theorem overwrittenBy_eq_none (h : p.overwritten = []) (k : Nat) : p.overwrittenBy k = none := by
  by_contra hne
  obtain ⟨o, ho⟩ := Option.ne_none_iff_exists'.mp hne
  have hk := lt_of_mem_usedBy (mem_usedBy.mpr (.inr ho))
  have hm : o ∈ p.overwritten := List.mem_filterMap.mpr ⟨k, List.mem_range.mpr hk, ho⟩
  rw [h] at hm
  exact List.not_mem_nil hm

theorem isTree_of_overwritten (h : p.check = .ok ()) (ho : p.overwritten = []) : p.IsTree := by
  have hlen := length_overwritten h
  rw [ho, List.length_nil] at hlen
  have hunique {o : Node} (hm : o ∈ p.madeBefore (p.steps.length - 1)) :
      ∃! k, o ∈ p.readBy k := by
    simpa [mem_usedBy, overwrittenBy_eq_none ho] using existsUnique_usedBy h hm
  refine ⟨hlen, fun i hi => hunique (by simpa [madeBefore] using hi), fun j hj => ?_⟩
  obtain ⟨k, hk, hu⟩ := hunique (step_mem_madeBefore.mpr (by omega : j < p.steps.length - 1))
  have hjk := step_mem_madeBefore.mp (mem_madeBefore_of_usedBy (mem_usedBy.mpr (.inl hk)))
  exact ⟨k, ⟨hjk, hk⟩, fun i hi => hu i hi.2⟩

end

/-- A path that passes the check is a tree unless results take the names of tensors that nothing has
read. Each tensor but the last result is used up by one step, which reads or overwrites it. -/
theorem check_tree {p : Path} (h : p.check = .ok ()) :
    (p.IsTree ↔ p.overwritten = []) ∧
      p.steps.length + p.overwritten.length + 1 = p.subscripts.inputs.length ∧
        ∀ o ∈ p.madeBefore (p.steps.length - 1), ∃! k, o ∈ p.readBy k ∨
          p.overwrittenBy k = some o := by
  have hlen := length_overwritten h
  refine ⟨⟨fun ht => ?_, isTree_of_overwritten h⟩, hlen, fun o ho => ?_⟩
  · have := ht.length
    exact List.length_eq_zero_iff.mp (by omega)
  · simpa only [mem_usedBy] using existsUnique_usedBy h ho

theorem check_tree_of_reused_name :
    let p : Path := {
      subscripts := ⟨[['a', 'b'], ['b', 'c'], ['c']], ['a']⟩
      steps := [⟨⟨"arg0", ['a', 'b'], some 0⟩, ⟨"arg1", ['b', 'c'], some 1⟩, ['b'],
        ⟨"arg0", ['a', 'c'], none⟩⟩,
        ⟨⟨"arg2", ['c'], some 2⟩, ⟨"arg0", ['a', 'c'], none⟩, ['c'],
          ⟨"out0", ['a'], none⟩⟩] }
    p.check = .ok () ∧ p.overwritten = [] ∧ p.IsTree := by
  intro p
  have h : p.check = .ok () := by decide
  have ho : p.overwritten = [] := by decide
  exact ⟨h, ho, (check_tree h).1.mpr ho⟩

/-- The check does not notice that the second result takes the name of the first, which is lost. -/
theorem exists_checked_not_tree :
    let p : Path := {
      subscripts := ⟨[['a'], ['a'], ['a'], ['a']], ['a']⟩
      steps := [⟨⟨"arg0", ['a'], some 0⟩, ⟨"arg1", ['a'], some 1⟩, [],
        ⟨"out0", ['a'], none⟩⟩,
        ⟨⟨"arg2", ['a'], some 2⟩, ⟨"arg3", ['a'], some 3⟩, [],
          ⟨"out0", ['a'], none⟩⟩] }
    p.steps ≠ [] ∧ p.check = .ok () ∧ p.overwritten = [.step 0] ∧ ¬ p.IsTree := by
  intro p
  exact ⟨List.cons_ne_nil _ _, by decide, by decide, fun ht => absurd ht.length (by decide)⟩

end Path

end Einsum
