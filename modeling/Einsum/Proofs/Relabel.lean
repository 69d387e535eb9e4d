import Einsum.Proofs.Kind
import Einsum.Proofs.Plan

namespace Einsum

section

variable {f : Label → Label} {known : Set Label} (hf : Set.InjOn f known)

include hf

theorem map_eq_map_iff {g h : Group} (hg : ∀ l ∈ g, l ∈ known)
    (hh : ∀ l ∈ h, l ∈ known) :
    g.map f = h.map f ↔ g = h := by
  refine ⟨fun he => ?_, congrArg _⟩
  induction g generalizing h with
  | nil => exact (List.map_eq_nil_iff.mp he.symm).symm
  | cons l g ih =>
    cases h with
    | nil => simp at he
    | cons m h =>
      rw [List.forall_mem_cons] at hg hh
      rw [List.map_cons, List.map_cons, List.cons.injEq] at he
      rw [hf hg.1 hh.1 he.1, ih hg.2 hh.2 he.2]

theorem idxOf_map {g : Group} {l : Label} (hg : ∀ m ∈ g, m ∈ known) (hl : l ∈ known) :
    (g.map f).idxOf (f l) = g.idxOf l := by
  induction g with
  | nil => rfl
  | cons m g ih =>
    rw [List.forall_mem_cons] at hg
    have he : (f m == f l) = (m == l) := by
      rw [Bool.eq_iff_iff, beq_iff_eq, beq_iff_eq]
      exact hf.eq_iff hg.1 hl
    rw [List.map_cons, List.idxOf_cons, List.idxOf_cons, he, ih hg.2]

theorem sameLabels_map {g h : Group} (hg : ∀ l ∈ g, l ∈ known)
    (hh : ∀ l ∈ h, l ∈ known) :
    sameLabels (g.map f) (h.map f) = sameLabels g h := by
  rw [sameLabels, all_mem_map hf hg hh, all_mem_map hf hh hg, sameLabels]

theorem axisPermutation_map {residual output : Group} (hr : ∀ l ∈ residual, l ∈ known)
    (ho : ∀ l ∈ output, l ∈ known) :
    axisPermutation (residual.map f) (output.map f) = axisPermutation residual output := by
  have hidx : (output.map f).map (residual.map f).idxOf = output.map residual.idxOf := by
    rw [List.map_map]
    exact List.map_congr_left fun l hl => idxOf_map hf hr (ho l hl)
  simp only [axisPermutation, map_eq_map_iff hf hr ho, hidx]

end

def Within (known : Set Label) (live : List Group) : Prop :=
  ∀ g ∈ live, ∀ l ∈ g, l ∈ known

theorem Within.getD {known : Set Label} {live : List Group} (h : Within known live) (i : Nat) :
    ∀ l ∈ live.getD i [], l ∈ known := by
  rw [List.getD_eq_getElem?_getD]
  cases hi : live[i]? with
  | none => exact fun l hl => absurd hl List.not_mem_nil
  | some g => exact h g (List.mem_of_getElem? hi)

theorem getD_map_groups (f : Label → Label) (live : List Group) (i : Nat) :
    (live.map (List.map f)).getD i [] = (live.getD i []).map f :=
  List.getD_map live [] (List.map f)

theorem mem_of_mem_others {α : Type} {live : List α} {i j : Int} {a : α}
    (h : a ∈ others live i j) : a ∈ live := by
  obtain ⟨p, hp, rfl⟩ := List.mem_map.mp h
  exact List.fst_mem_of_mem_zipIdx (List.mem_filter.mp hp).1

theorem mem_of_mem_replacePair {α : Type} {live : List α} {i j : Nat} {a b : α}
    (h : b ∈ replacePair live i j a) :
    b ∈ live ∨ b = a :=
  List.mem_or_eq_of_mem_set (List.mem_of_mem_eraseIdx h)

section

variable {f : Label → Label} {known : Set Label} (hf : Set.InjOn f known)

theorem filter_map_of_eq {p q : Label → Bool} {g : Group} (h : ∀ l ∈ g, q (f l) = p l) :
    (g.map f).filter q = (g.filter p).map f := by
  rw [List.filter_map]
  exact congrArg (List.map f) (List.filter_congr h)

section

variable {left right needed : Group} (hl : ∀ l ∈ left, l ∈ known)
  (hr : ∀ l ∈ right, l ∈ known) (hn : ∀ l ∈ needed, l ∈ known)

include hl hr in
theorem known_of_mem_residual (needed : Group) :
    ∀ l ∈ (split left right needed).residual, l ∈ known := by
  intro l hm
  exact (mem_split_residual.mp hm).1.elim (hl l) (hr l)

include hf hl hr hn

theorem split_residual_map :
    (split (left.map f) (right.map f) (needed.map f)).residual =
      (split left right needed).residual.map f := by
  have hall : ∀ l ∈ left ++ right, l ∈ known := List.forall_mem_append.mpr ⟨hl, hr⟩
  simp only [split]
  rw [← List.map_append, firsts_map f _ (hf.mono hall)]
  apply filter_map_of_eq
  intro l hm
  simp only [mem_map_iff_of_injOn hf (hall l (mem_firsts.mp hm)) hn]

theorem split_summed_map :
    (split (left.map f) (right.map f) (needed.map f)).summed.Perm
      ((split left right needed).summed.map f) := by
  have hall : ∀ l ∈ left ++ right, l ∈ known := List.forall_mem_append.mpr ⟨hl, hr⟩
  have hfilter : ((firsts (left ++ right)).map f).filter (· ∉ needed.map f) =
      ((firsts (left ++ right)).filter (· ∉ needed)).map f := by
    apply filter_map_of_eq
    intro l hm
    simp only [mem_map_iff_of_injOn hf (hall l (mem_firsts.mp hm)) hn]
  simp only [split]
  rw [← List.map_append, firsts_map f _ (hf.mono hall), hfilter]
  exact (sortLabels_perm _).trans ((sortLabels_perm _).map f).symm

theorem split_cost_map :
    (split (left.map f) (right.map f) (needed.map f)).cost = (split left right needed).cost := by
  rw [Split.cost, Split.cost, split_residual_map hf hl hr hn,
    (split_summed_map hf hl hr hn).length_eq, List.length_map, List.length_map]

end

variable {output : Group} {live : List Group}

theorem needed_map (f : Label → Label) (output : Group) (live : List Group) (i j : Int) :
    needed (live.map (List.map f)) i j (output.map f) = (needed live i j output).map f := by
  rw [needed, needed, others_map, List.map_append, List.map_flatten]

theorem Within.needed (h : Within known live) (ho : ∀ l ∈ output, l ∈ known) (i j : Int) :
    ∀ l ∈ needed live i j output, l ∈ known := by
  refine List.forall_mem_append.mpr ⟨ho, fun l hl => ?_⟩
  obtain ⟨g, hg, hm⟩ := List.mem_flatten.mp hl
  exact h g (mem_of_mem_others hg) l hm

theorem Within.contractAt (h : Within known live) (i j : Nat) :
    Within known (contractAt output live i j) := by
  intro g hg l hl
  rcases mem_of_mem_replacePair hg with hg | rfl
  · exact h g hg l hl
  · exact known_of_mem_residual (h.getD i) (h.getD j) _ l hl

include hf

theorem rank_map (h : Within known live) (p : Pair) :
    rank (live.map (List.map f)) p = rank live p := by
  have hc : ((firsts ((live.getD p.1 []).map f)).filter (· ∈ (live.getD p.2 []).map f)).length =
      ((firsts (live.getD p.1 [])).filter (· ∈ live.getD p.2 [])).length :=
    (congrArg List.length (commonLabels_map hf (h.getD p.1) (h.getD p.2))).trans (List.length_map f)
  simp only [rank, getD_map_groups, hc, List.length_map]

theorem pairsByRank_map (h : Within known live) :
    pairsByRank (live.map (List.map f)) = pairsByRank live := by
  rw [pairsByRank, pairsByRank, List.length_map]
  congr 2
  exact List.map_congr_left fun p _ => rank_map hf h p

variable (ho : ∀ l ∈ output, l ∈ known)

include ho

theorem contractAt_map (h : Within known live) (i j : Nat) :
    contractAt (output.map f) (live.map (List.map f)) i j =
      (contractAt output live i j).map (List.map f) := by
  rw [contractAt, contractAt, splitAt, getD_map_groups, getD_map_groups, needed_map,
    split_residual_map hf (h.getD i) (h.getD j) (h.needed ho i j), replacePair_map]
  rfl

theorem splitAt_cost_map (h : Within known live) (i j : Nat) :
    (splitAt (output.map f) (live.map (List.map f)) i j).cost = (splitAt output live i j).cost := by
  rw [splitAt, splitAt, getD_map_groups, getD_map_groups, needed_map,
    split_cost_map hf (h.getD i) (h.getD j) (h.needed ho i j)]

theorem greedyFrom_map (fuel : Nat) (h : Within known live) :
    greedyFrom (output.map f) fuel (live.map (List.map f)) = greedyFrom output fuel live := by
  induction fuel generalizing live with
  | zero => rfl
  | succ fuel ih =>
    rw [greedyFrom, greedyFrom, pairsByRank_map hf h]
    cases pairsByRank live with
    | nil => rfl
    | cons p ps =>
      dsimp only
      rw [contractAt_map hf ho h, ih (h.contractAt p.1 p.2)]

/-- The search meets the same costs in the same order, so it leaves the same branches. -/
theorem searchFrom_map (fuel : Nat) (h : Within known live) (chosen : List Pair) (cost : StepCost)
    (best : Option Candidate) :
    searchFrom (output.map f) fuel (live.map (List.map f)) chosen cost best =
      searchFrom output fuel live chosen cost best := by
  induction fuel generalizing live chosen cost best with
  | zero => rfl
  | succ fuel ih =>
    rw [searchFrom, searchFrom, pairsByRank_map hf h, List.length_map]
    congr 3
    funext best p
    obtain ⟨i, j⟩ := p
    dsimp only
    rw [contractAt_map hf ho h, splitAt_cost_map hf ho h, ih (h.contractAt i j)]

end

namespace Subscripts

variable {s : Subscripts} {f : Label → Label} (hf : Set.InjOn f {l | l ∈ s.labels})

theorem within_inputs (s : Subscripts) : Within {l | l ∈ s.labels} s.inputs :=
  fun g hg _ hl => s.mem_labels.mpr (.inl (s.mem_axes.mpr ⟨g, hg, hl⟩))

theorem relabel_relabel (s : Subscripts) (f g : Label → Label) :
    (s.relabel f).relabel g = s.relabel (g ∘ f) := by
  simp only [relabel, List.map_map]
  congr 2
  funext group
  exact List.map_map

theorem relabel_congr {f g : Label → Label} (h : ∀ l ∈ s.labels, f l = g l) :
    s.relabel f = s.relabel g := by
  have hin : s.inputs.map (List.map f) = s.inputs.map (List.map g) := by
    apply List.map_congr_left
    intro group hg
    exact List.map_congr_left fun l hl => h l (s.within_inputs group hg l hl)
  have hout : s.output.map f = s.output.map g :=
    List.map_congr_left fun l hl => h l (s.mem_labels.mpr (.inr hl))
  exact congrArg₂ Subscripts.mk hin hout

include hf

theorem labels_relabel : (s.relabel f).labels = s.labels.map f := by
  have hall : ∀ l ∈ s.axes ++ s.output, l ∈ s.labels := fun l hl => mem_firsts.mpr hl
  have hout : (s.relabel f).output = s.output.map f := rfl
  rw [labels, axes_relabel, hout, ← List.map_append, firsts_map f _ (hf.mono hall), labels]

theorem canonicalLabel_relabel {l : Label} (hl : l ∈ s.labels) :
    (s.relabel f).canonicalLabel (f l) = s.canonicalLabel l := by
  rw [canonicalLabel, canonicalLabel, labels_relabel hf, idxOf_map hf (fun _ hm => hm) hl]

theorem canonical_relabel : (s.relabel f).canonical = s.canonical := by
  rw [canonical, relabel_relabel, canonical]
  exact relabel_congr fun l hl => canonicalLabel_relabel hf hl

theorem greedyPairs_relabel : greedyPairs (s.relabel f) = greedyPairs s := by
  rw [greedyPairs, greedyPairs, relabel, List.length_map]
  exact greedyFrom_map hf (fun l hl => s.mem_labels.mpr (.inr hl)) _ s.within_inputs

theorem cheapestPairs_relabel (h : 1 ≤ s.inputs.length) :
    cheapestPairs (s.relabel f) = cheapestPairs s := by
  obtain ⟨order, ho, -⟩ := cheapestPairs_least h
  have hsearch : searchFrom (s.relabel f).output (s.relabel f).inputs.length (s.relabel f).inputs
      [] .zero none = searchFrom s.output s.inputs.length s.inputs [] .zero none := by
    rw [relabel, List.length_map]
    exact searchFrom_map hf (fun l hl => s.mem_labels.mpr (.inr hl)) _ s.within_inputs [] .zero none
  rw [ho]
  rw [cheapestPairs] at ho ⊢
  rw [hsearch]
  cases hb : searchFrom s.output s.inputs.length s.inputs [] .zero none with
  | none => simp [hb] at ho
  | some best => simpa [hb] using ho

theorem Validated.relabel (hs : s.Validated) (hl : ∀ l ∈ s.labels, isLabel (f l) = true) :
    (s.relabel f).Validated where
  letters := by
    rw [axes_relabel, List.forall_mem_map]
    exact fun l hm => hl l (s.mem_labels.mpr (.inl hm))
  output_nodup := hs.output_nodup.map_on fun l hm m hn h =>
    hf (s.mem_labels.mpr (.inr hm)) (s.mem_labels.mpr (.inr hn)) h
  output_subset := by
    rw [axes_relabel]
    exact List.forall_mem_map.mpr fun l hm => List.mem_map_of_mem (hs.output_subset l hm)

end Subscripts

def NamedTensor.relabel (f : Label → Label) (t : NamedTensor) : NamedTensor :=
  ⟨t.name, t.labels.map f, t.operand⟩

/-- A step under other labels; those that are summed may come in another order. -/
structure Step.Renames (f : Label → Label) (s s' : Step) : Prop where
  left : s'.left = s.left.relabel f
  right : s'.right = s.right.relabel f
  summed : s'.summed.Perm (s.summed.map f)
  result : s'.result = s.result.relabel f

structure Path.Renames (f : Label → Label) (p p' : Path) : Prop where
  subscripts : p'.subscripts = p.subscripts.relabel f
  steps : List.Forall₂ (Step.Renames f) p.steps p'.steps
  permutation : p'.permutation = p.permutation

theorem Step.Renames.subscripts {f : Label → Label} {s s' : Step} (h : s.Renames f s') :
    s'.subscripts = s.subscripts.relabel f := by
  rw [Step.subscripts, h.left, h.right, h.result]
  rfl

section

variable (output : Group) (live : List NamedTensor) (i j : Int)

def partsAt (a b : Nat) : Split :=
  split (live.getD a default).labels (live.getD b default).labels
    (needed (live.map NamedTensor.labels) i j output)

inductive Builds (n : Nat) :
    List (Except Error (Int × Int)) → List Step → Option (List Nat) → Prop
  | last {a b : Nat} (left : position? live.length i = some a)
      (right : position? live.length j = some b)
      (same : sameLabels (partsAt output live i j a b).residual output = true) :
      Builds n [] [⟨live.getD a default, live.getD b default,
        (partsAt output live i j a b).summed, finalTensor output⟩]
        (axisPermutation (partsAt output live i j a b).residual output)
  | next {a b : Nat} {rest : List (Except Error (Int × Int))} {steps : List Step}
      {perm : Option (List Nat)}
      (left : position? live.length i = some a) (right : position? live.length j = some b)
      (ne : rest.isEmpty = false) (tail : Path.stepsFrom output (n + 1)
        (replacePair live a b ⟨intermediateName n, (partsAt output live i j a b).residual,
          none⟩) rest = .ok (steps, perm)) :
      Builds n rest (⟨live.getD a default, live.getD b default,
        (partsAt output live i j a b).summed,
        ⟨intermediateName n, (partsAt output live i j a b).residual, none⟩⟩ :: steps) perm

variable {output live i j}

theorem Builds.stepsFrom {n : Nat} {rest : List (Except Error (Int × Int))} {steps : List Step}
    {perm : Option (List Nat)} (h : Builds output live i j n rest steps perm) :
    Path.stepsFrom output n live (.ok (i, j) :: rest) = .ok (steps, perm) := by
  cases h with
  | @last a b left right same =>
    have hs : sameLabels (split (live.getD a default).labels (live.getD b default).labels
      (needed (live.map NamedTensor.labels) i j output)).residual output = true := same
    simp only [Path.stepsFrom, left, right, hs, List.isEmpty_nil, if_true]
    rfl
  | @next a b rest steps perm left right ne tail =>
    rw [partsAt] at tail
    simp only [Path.stepsFrom, left, right, ne, tail]
    rfl

theorem builds_of_stepsFrom {n : Nat} {rest : List (Except Error (Int × Int))} {steps : List Step}
    {perm : Option (List Nat)}
    (h : Path.stepsFrom output n live (.ok (i, j) :: rest) = .ok (steps, perm)) :
    Builds output live i j n rest steps perm := by
  rw [Path.stepsFrom] at h
  split at h
  next a b left right =>
    cases rest with
    | nil =>
      rw [List.isEmpty_nil, if_pos rfl] at h
      split at h
      next same =>
        cases h
        exact .last left right same
      next => cases h
    | cons entry rest =>
      rw [List.isEmpty_cons, if_neg Bool.false_ne_true] at h
      dsimp only at h
      split at h
      next => cases h
      next tail =>
        cases h
        exact .next left right rfl tail
  next => cases h

end

section

variable {f : Label → Label} {known : Set Label} (hf : Set.InjOn f known) {output : Group}
  (ho : ∀ l ∈ output, l ∈ known)

theorem getD_map_tensors (f : Label → Label) (live : List NamedTensor) (i : Nat) :
    (live.map (NamedTensor.relabel f)).getD i default = (live.getD i default).relabel f :=
  List.getD_map live default (NamedTensor.relabel f)

theorem labels_map_relabel (f : Label → Label) (live : List NamedTensor) :
    (live.map (NamedTensor.relabel f)).map NamedTensor.labels =
      (live.map NamedTensor.labels).map (List.map f) := by
  rw [List.map_map, List.map_map]
  rfl

theorem Within.getD_labels {live : List NamedTensor}
    (h : Within known (live.map NamedTensor.labels)) (i : Nat) :
    ∀ l ∈ (live.getD i default).labels, l ∈ known := by
  have hd := h.getD i
  rwa [show ([] : Group) = (default : NamedTensor).labels from rfl, List.getD_map] at hd

theorem within_replacePair {live : List NamedTensor}
    (h : Within known (live.map NamedTensor.labels)) (a b : Nat) (t : NamedTensor)
    (ht : ∀ l ∈ t.labels, l ∈ known) :
    Within known ((replacePair live a b t).map NamedTensor.labels) := by
  rw [Within, List.forall_mem_map]
  intro u hu
  rcases mem_of_mem_replacePair hu with hu | rfl
  · exact h _ (List.mem_map_of_mem hu)
  · exact ht

section

variable {live : List NamedTensor} (h : Within known (live.map NamedTensor.labels)) (i j : Int)
  (a b : Nat)

include h in
theorem known_partsAt : ∀ l ∈ (partsAt output live i j a b).residual, l ∈ known :=
  known_of_mem_residual (h.getD_labels a) (h.getD_labels b) _

theorem partsAt_map (f : Label → Label) (output : Group) (live : List NamedTensor) (i j : Int)
    (a b : Nat) :
    partsAt (output.map f) (live.map (NamedTensor.relabel f)) i j a b =
      split ((live.getD a default).labels.map f) ((live.getD b default).labels.map f)
        ((needed (live.map NamedTensor.labels) i j output).map f) := by
  rw [partsAt, getD_map_tensors, getD_map_tensors, labels_map_relabel, needed_map]
  rfl

include hf ho h

theorem residual_partsAt_map :
    (partsAt (output.map f) (live.map (NamedTensor.relabel f)) i j a b).residual =
      (partsAt output live i j a b).residual.map f := by
  rw [partsAt_map]
  exact split_residual_map hf (h.getD_labels a) (h.getD_labels b) (h.needed ho i j)

theorem summed_partsAt_map :
    (partsAt (output.map f) (live.map (NamedTensor.relabel f)) i j a b).summed.Perm
      ((partsAt output live i j a b).summed.map f) := by
  rw [partsAt_map]
  exact split_summed_map hf (h.getD_labels a) (h.getD_labels b) (h.needed ho i j)

end

include hf ho

theorem stepsFrom_map {entries : List (Except Error (Int × Int))} {n : Nat}
    {live : List NamedTensor} (h : Within known (live.map NamedTensor.labels)) {steps : List Step}
    {perm : Option (List Nat)} (hsteps : Path.stepsFrom output n live entries = .ok (steps, perm)) :
    ∃ steps', Path.stepsFrom (output.map f) n (live.map (NamedTensor.relabel f)) entries =
      .ok (steps', perm) ∧ List.Forall₂ (Step.Renames f) steps steps' := by
  induction entries generalizing n live steps perm with
  | nil =>
    cases hsteps
    exact ⟨[], rfl, .nil⟩
  | cons entry rest ih =>
    cases entry with
    | error e => cases hsteps
    | ok pair =>
      obtain ⟨i, j⟩ := pair
      have hlen : (live.map (NamedTensor.relabel f)).length = live.length := List.length_map _
      cases builds_of_stepsFrom hsteps with
      | @last a b left right same =>
        have hres := residual_partsAt_map hf ho h i j a b
        have hknown : ∀ l ∈ (partsAt output live i j a b).residual, l ∈ known :=
          known_partsAt h i j a b
        have hsame := same
        rw [← sameLabels_map hf hknown ho, ← hres] at hsame
        rw [← hlen] at left right
        have hbuild := Builds.last (n := n) left right hsame
        rw [hres, axisPermutation_map hf hknown ho, getD_map_tensors, getD_map_tensors] at hbuild
        exact ⟨_, hbuild.stepsFrom, .cons ⟨rfl, rfl, summed_partsAt_map hf ho h i j a b, rfl⟩
          .nil⟩
      | @next a b rest steps perm left right ne tail =>
        have hres := residual_partsAt_map hf ho h i j a b
        obtain ⟨steps', hs', hren⟩ :=
          ih (within_replacePair h a b _ (known_partsAt h i j a b)) tail
        rw [← replacePair_map, NamedTensor.relabel, ← hres] at hs'
        rw [← hlen] at left right
        have hbuild := Builds.next left right ne hs'
        rw [hres, getD_map_tensors, getD_map_tensors] at hbuild
        exact ⟨_, hbuild.stepsFrom, .cons ⟨rfl, rfl, summed_partsAt_map hf ho h i j a b, rfl⟩
          hren⟩

end

theorem operandTensors_relabel (f : Label → Label) (s : Subscripts) :
    (s.relabel f).operandTensors = s.operandTensors.map (NamedTensor.relabel f) := by
  simp only [Subscripts.operandTensors, Subscripts.relabel, List.zipIdx_map, List.map_map]
  rfl

namespace Path

variable {s : Subscripts} {f : Label → Label} (hf : Set.InjOn f {l | l ∈ s.labels})

include hf

theorem ofOrder_relabel {order : List (Int × Int)} {p : Path} (h : ofOrder s order = .ok p) :
    ∃ p', ofOrder (s.relabel f) order = .ok p' ∧ p.Renames f p' := by
  rw [ofOrder, ofEntries] at h ⊢
  have hlen : (s.relabel f).inputs.length = s.inputs.length := List.length_map _
  rw [hlen]
  split at h
  next => cases h
  next hcount =>
    rw [if_neg hcount, operandTensors_relabel]
    split at h
    next => cases h
    next steps perm hsteps =>
      cases h
      have hwithin : Within {l | l ∈ s.labels} (s.operandTensors.map NamedTensor.labels) := by
        rw [labels_operandTensors]
        exact s.within_inputs
      obtain ⟨steps', hs', hren⟩ :=
        stepsFrom_map hf (fun l hl => s.mem_labels.mpr (.inr hl)) hwithin hsteps
      have hout : (s.relabel f).output = s.output.map f := rfl
      rw [hout, hs']
      exact ⟨_, rfl, rfl, hren, rfl⟩

theorem chooseOrder_relabel (h : 1 ≤ s.inputs.length) (c : Config) :
    chooseOrder (s.relabel f) c = chooseOrder s c := by
  have hlen : (s.relabel f).inputs.length = s.inputs.length := List.length_map _
  rw [chooseOrder, chooseOrder, hlen, Subscripts.greedyPairs_relabel hf,
    Subscripts.cheapestPairs_relabel hf h]

/-- Planning commutes with renaming. -/
theorem plan_relabel {c : Config} {p : Path} (hne : s.inputs ≠ []) (h : plan s c = .ok p) :
    ∃ p', plan (s.relabel f) c = .ok p' ∧ p.Renames f p' := by
  have hlen : (s.relabel f).inputs.length = s.inputs.length := List.length_map _
  rw [plan] at h ⊢
  rw [hlen]
  split at h
  next hone =>
    cases h
    rw [if_pos hone]
    exact ⟨_, rfl, rfl, .nil, rfl⟩
  next hone =>
    rw [if_neg hone, chooseOrder_relabel hf (List.length_pos_of_ne_nil hne)]
    split at h
    next => cases h
    next => exact ofOrder_relabel hf h

end Path

end Einsum
