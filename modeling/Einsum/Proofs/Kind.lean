import Einsum.Proofs.Loop

namespace Einsum

theorem mem_commonLabels {l : Label} {left right : Group} :
    l ∈ commonLabels left right ↔ l ∈ left ∧ l ∈ right := by
  simp [commonLabels]

theorem firstOther_of_mem {l : Label} {g : Group} (hg : g.length = 2) (hf : (firsts g).length = 2)
    (hl : l ∈ g) : ∃ m, m ≠ l ∧ g.Perm [m, l] ∧ firstOther l g = .ok m := by
  obtain ⟨x, y, rfl⟩ := List.length_eq_two.mp hg
  have hxy : x ≠ y := by
    rintro rfl
    simp [firsts] at hf
  rcases List.mem_pair.mp hl with rfl | rfl
  · exact ⟨y, hxy.symm, List.Perm.swap y l [], by simp [firstOther, hxy.symm]⟩
  · exact ⟨x, hxy, List.Perm.refl _, by simp [firstOther, hxy]⟩

structure MatrixProduct (s : Subscripts) (left right : Group) (row shared column : Label) :
    Prop where
  inputs : s.inputs = [left, right]
  left_perm : left.Perm [row, shared]
  right_perm : right.Perm [column, shared]
  output_perm : s.output.Perm [row, column]
  nodup : [row, shared, column].Nodup
  body : matrixProductBody s =
    .ok (nest [row, shared] (matrixCell s.output ⟨0, left⟩ ⟨1, right⟩ column))

theorem matrixProduct_of_isMatrixProduct {s : Subscripts} (h : s.isMatrixProduct = true) :
    ∃ left right row shared column, MatrixProduct s left right row shared column := by
  unfold Subscripts.isMatrixProduct at h
  split at h
  next left right hi =>
    simp only [Bool.and_eq_true, beq_iff_eq] at h
    obtain ⟨⟨⟨⟨hl, hr⟩, hfl⟩, hfr⟩, h⟩ := h
    split at h
    next l hc =>
      simp only [Bool.and_eq_true, beq_iff_eq, List.all_eq_true, decide_eq_true_eq] at h
      obtain ⟨⟨⟨-, hlen⟩, -⟩, hfree⟩ := h
      obtain ⟨hll, hlr⟩ := mem_commonLabels.mp (hc ▸ List.mem_singleton_self l)
      obtain ⟨row, hrow, hlp, hlo⟩ := firstOther_of_mem hl hfl hll
      obtain ⟨column, hcol, hrp, hro⟩ := firstOther_of_mem hr hfr hlr
      have hrl : row ∈ left := hlp.mem_iff.mpr List.mem_cons_self
      have hcr : column ∈ right := hrp.mem_iff.mpr List.mem_cons_self
      have hne : row ≠ column := by
        rintro rfl
        exact hrow (List.mem_singleton.mp (hc ▸ mem_commonLabels.mpr ⟨hrl, hcr⟩))
      have hsub : [row, column] ⊆ s.output := by
        intro m hm
        apply hfree
        rcases List.mem_pair.mp hm with rfl | rfl
        · simp [hrl, hrow]
        · simp [hcr, hcol]
      have hperm : [row, column].Perm s.output :=
        (List.subperm_of_subset (by simp [hne]) hsub).perm_of_length_le (by simp [hlen])
      refine ⟨left, right, row, l, column, hi, hlp, hrp, hperm.symm, ?_, ?_⟩
      · simp [hrow, hne, hcol.symm]
      · simp only [matrixProductBody, hi, onlyShared, hc, bind, Except.bind, hlo, hro]
        rfl
    next => cases h
  next => cases h

theorem filter_assignments_matrix {sizes : Assignment} {row shared column : Label}
    (hn : [row, shared, column].Nodup) {i k : Nat} (hi : i < sizes row) (hk : k < sizes column)
    (c : Assignment) :
    (assignments sizes [row, shared, column] c).filter (fun b => b row = i ∧ b column = k) =
      assignments sizes [shared] (Function.update (Function.update c row i) column k) := by
  obtain ⟨hr, hs⟩ := List.nodup_cons.mp hn
  have hsc : shared ≠ column := by simpa using hs
  rw [filter_assignments_cons hr hi]
  have hl (b : Assignment) : (assignments sizes [column] b).filter (fun b => b column = k) =
      [Function.update b column k] := by
    have h := filter_assignments_cons (a := b) (List.not_mem_nil : column ∉ ([] : Group)) hk
      (fun _ => True)
    simpa [assignments] using h
  have ha : assignments sizes [shared, column] (Function.update c row i) =
      (assignments sizes [shared] (Function.update c row i)).flatMap (assignments sizes [column]) :=
    assignments_append [shared] [column]
  rw [ha, List.filter_flatMap]
  simp only [hl]
  simp only [assignments, List.flatMap_assoc, List.flatMap_singleton, Function.update_comm hsc]

namespace MatrixProduct

variable {s : Subscripts} {left right : Group} {row shared column : Label}
  (h : MatrixProduct s left right row shared column)

include h

theorem mem_axes {l : Label} : l ∈ s.axes ↔ l ∈ [row, shared, column] := by
  simp only [Subscripts.axes, h.inputs, List.flatten_cons, List.flatten_nil, List.mem_append,
    h.left_perm.mem_iff, h.right_perm.mem_iff, List.mem_cons, List.not_mem_nil]
  grind

theorem mem_summed {l : Label} : l ∈ s.summed ↔ l ∈ [shared] := by
  obtain ⟨⟨hrs, -⟩, hsc⟩ : (row ≠ shared ∧ row ≠ column) ∧ shared ≠ column := by
    simpa using h.nodup
  rw [s.mem_summed, h.mem_axes, h.output_perm.mem_iff]
  simp only [List.mem_cons, List.not_mem_nil]
  grind

theorem summed_eq : s.summed = [shared] :=
  List.perm_singleton.mp
    ((List.perm_ext_iff_of_nodup s.nodup_summed (List.nodup_singleton shared)).mpr
    fun _ => h.mem_summed)

theorem row_mem : row ∈ s.output := h.output_perm.mem_iff.mpr (by simp)

theorem column_mem : column ∈ s.output := h.output_perm.mem_iff.mpr (by simp)

theorem map_output_mem {sizes b c : Assignment}
    (hb : b ∈ assignments sizes [row, shared, column] c) :
    s.output.map b ∈ tuples (s.output.map sizes) := by
  rw [map_mem_tuples]
  intro l hl
  apply (mem_assignments.mp hb).1
  have := h.output_perm.mem_iff.mp hl
  grind

theorem map_output_eq {a b : Assignment} :
    s.output.map b = s.output.map a ↔ b row = a row ∧ b column = a column := by
  rw [List.map_inj_left]
  simp [h.output_perm.mem_iff]

theorem accesses_eq : s.accesses = [⟨0, left⟩, ⟨1, right⟩] := by
  simp [Subscripts.accesses, h.inputs]

section

variable {α : Type} {ops : Arithmetic α} {operands : List (Tensor α)} {sizes a c : Assignment}

theorem run_body {I : α → Prop} (store : Store α)
    (hg : Grows ops store.result.type (fun b => product ops operands b s.accesses)
      (assignments sizes [row, shared, column] c) I)
    (hs : store.result.shape = s.output.map sizes) (hf : store.result.IsFull)
    (ha : store.result.All I ops.literalZero) :
    let final := (nest [row, shared] (matrixCell s.output ⟨0, left⟩ ⟨1, right⟩ column)).run
      ops operands sizes c store
    final.result = grown ops s.output (fun b => product ops operands b s.accesses) store.result
        (assignments sizes [row, shared, column] c) ∧
      final.failure = store.failure := by
  have hp : (fun b => product ops operands b s.accesses) =
      pairProduct ops operands ⟨0, left⟩ ⟨1, right⟩ := by
    rw [h.accesses_eq]
    rfl
  have hl : column ∉ left := by
    rw [h.left_perm.mem_iff]
    have := h.nodup
    grind
  have hb : ∀ b ∈ assignments sizes [row, shared, column] c,
      s.output.map b ∈ tuples store.result.shape := fun b hb => hs ▸ h.map_output_mem hb
  have hc : assignments sizes [row, shared, column] c =
      (assignments sizes [row, shared] c).flatMap (assignments sizes [column]) :=
    assignments_append [row, shared] [column]
  rw [run_nest]
  rw [hp, hc] at hg ⊢
  rw [hc] at hb
  exact foldl_matrixCell hg hl hb hf ha

/-- Each element grows by the products of its row and its column, in the order of the shared
label. -/
theorem get_grown {w : Assignment → α} {t : Tensor α} (hs : t.shape = s.output.map sizes)
    (hf : t.IsFull) (ha : a.Below sizes s.output) :
    (grown ops s.output w t (assignments sizes [row, shared, column] c)).get ops.literalZero
        (s.output.map a) =
      (assignments sizes [shared]
        (Function.update (Function.update c row (a row)) column (a column))).foldl
        (grow ops t.type w) (t.get ops.literalZero (s.output.map a)) := by
  have hb : ∀ b ∈ assignments sizes [row, shared, column] c,
      s.output.map b ∈ tuples t.shape :=
    fun b hb => hs ▸ h.map_output_mem hb
  rw [grown, get_scatter _ _ _ hf hb (hs ▸ map_mem_tuples.mpr ha)]
  simp only [h.map_output_eq, filter_assignments_matrix h.nodup (ha row h.row_mem)
    (ha column h.column_mem)]

end

end MatrixProduct

theorem kernelBody_kind (s : Subscripts) (special : Bool) :
    kernelBody s (s.kind special) = .ok (reductionBody s) ∨
      s.isMatrixProduct = true ∧ s.kind special = .matrixProduct := by
  unfold Subscripts.kind
  split
  · exact .inl rfl
  · split
    next =>
      split
      next h => exact .inr ⟨h, rfl⟩
      next => exact .inl rfl
    next g hg =>
      dsimp only
      split
      · exact .inl rfl
      · split
        next hs =>
          left
          have hs' : s.summed = [] := List.isEmpty_iff.mp hs
          simp [kernelBody, diagonalBody, reductionBody, Subscripts.accesses, hg, hs']
        next => split <;> exact .inl rfl
    next => exact .inl rfl

theorem exists_kernelBody (s : Subscripts) (special : Bool) :
    ∃ b, kernelBody s (s.kind special) = .ok b := by
  rcases kernelBody_kind s special with h | ⟨hm, hk⟩
  · exact ⟨_, h⟩
  · obtain ⟨left, right, row, shared, column, hp⟩ := matrixProduct_of_isMatrixProduct hm
    exact ⟨_, by rw [hk]; exact hp.body⟩

/-- A body is the loops of a reduction or those of a matrix product. -/
theorem kernelBody_cases {s : Subscripts} {special : Bool} {b : Block}
    (hb : kernelBody s (s.kind special) = .ok b) :
    b = reductionBody s ∨
      ∃ left right row shared column, MatrixProduct s left right row shared column ∧
      b = nest [row, shared] (matrixCell s.output ⟨0, left⟩ ⟨1, right⟩ column) := by
  rcases kernelBody_kind s special with h | ⟨hm, hk⟩
  · exact .inl (Except.ok.inj (hb.symm.trans h))
  · obtain ⟨left, right, row, shared, column, hp⟩ := matrixProduct_of_isMatrixProduct hm
    rw [hk] at hb
    exact .inr ⟨left, right, row, shared, column, hp, Except.ok.inj (hb.symm.trans hp.body)⟩

section

variable {f : Label → Label} {known : Set Label} {g left right : Group}

theorem mem_map_iff_of_injOn (hf : Set.InjOn f known) {l : Label} (hl : l ∈ known)
    (hg : ∀ m ∈ g, m ∈ known) : f l ∈ g.map f ↔ l ∈ g := by
  refine ⟨fun h => ?_, List.mem_map_of_mem⟩
  obtain ⟨m, hm, he⟩ := List.mem_map.mp h
  exact hf (hg m hm) hl he ▸ hm

theorem all_mem_map (hf : Set.InjOn f known) (hl : ∀ m ∈ left, m ∈ known)
    (hr : ∀ m ∈ right, m ∈ known) :
    (left.map f).all (· ∈ right.map f) = left.all (· ∈ right) := by
  rw [Bool.eq_iff_iff]
  simp only [List.all_eq_true, decide_eq_true_eq, List.forall_mem_map]
  exact forall₂_congr fun m hm => mem_map_iff_of_injOn hf (hl m hm) hr

theorem commonLabels_map (hf : Set.InjOn f known) (hl : ∀ m ∈ left, m ∈ known)
    (hr : ∀ m ∈ right, m ∈ known) :
    commonLabels (left.map f) (right.map f) = (commonLabels left right).map f := by
  rw [commonLabels, commonLabels, firsts_map f left (hf.mono hl), List.filter_map]
  congr 1
  apply List.filter_congr
  intro m hm
  simp only [Function.comp_apply, mem_map_iff_of_injOn hf (hl m (mem_firsts.mp hm)) hr]

theorem repeated_map (hf : Set.InjOn f known) (hg : ∀ m ∈ g, m ∈ known) :
    repeated (g.map f) = (repeated g).map f := by
  rw [repeated, repeated, firsts_map f g (hf.mono hg), List.filter_map]
  congr 1
  apply List.filter_congr
  intro m hm
  have hc : (g.map f).count (f m) = g.count m := by
    rw [List.count, List.count, List.countP_map]
    apply List.countP_congr
    intro k hk
    have he : f k = f m ↔ k = m :=
      ⟨fun h => hf (hg k hk) (hg m (mem_firsts.mp hm)) h, fun h => h ▸ rfl⟩
    simp [he]
  simp only [Function.comp_apply, hc]

end

namespace Subscripts

variable {s : Subscripts} {f : Label → Label} (hf : Set.InjOn f {l | l ∈ s.labels})

include hf

theorem mem_output_relabel {l : Label} (hl : l ∈ s.axes) :
    f l ∈ (s.relabel f).output ↔ l ∈ s.output :=
  mem_map_iff_of_injOn hf (s.mem_labels.mpr (.inl hl)) fun _ hm => s.mem_labels.mpr (.inr hm)

theorem summed_relabel_perm : (s.relabel f).summed.Perm (s.summed.map f) := by
  have hn : (s.summed.map f).Nodup := s.nodup_summed.map_on fun l hl m hm h =>
    hf (s.mem_labels.mpr (.inl (s.mem_summed.mp hl).1))
      (s.mem_labels.mpr (.inl (s.mem_summed.mp hm).1)) h
  apply (List.perm_ext_iff_of_nodup (nodup_summed _) hn).mpr
  intro k
  rw [mem_summed, axes_relabel]
  constructor
  · rintro ⟨hk, hko⟩
    obtain ⟨l, hl, rfl⟩ := List.mem_map.mp hk
    exact List.mem_map_of_mem (s.mem_summed.mpr ⟨hl, mt (mem_output_relabel hf hl).mpr hko⟩)
  · intro hk
    obtain ⟨l, hl, rfl⟩ := List.mem_map.mp hk
    obtain ⟨hla, hlo⟩ := s.mem_summed.mp hl
    exact ⟨List.mem_map_of_mem hla, mt (mem_output_relabel hf hla).mp hlo⟩

theorem isMatrixProduct_relabel : (s.relabel f).isMatrixProduct = s.isMatrixProduct := by
  have hout : ∀ l ∈ s.output, l ∈ s.labels := fun l hl => s.mem_labels.mpr (.inr hl)
  have hin : ∀ g ∈ s.inputs, ∀ l ∈ g, l ∈ s.labels :=
    fun g hg l hl => s.mem_labels.mpr (.inl (s.mem_axes.mpr ⟨g, hg, hl⟩))
  unfold isMatrixProduct
  rcases hi : s.inputs with _ | ⟨left, _ | ⟨right, _ | ⟨g, gs⟩⟩⟩
  · simp [relabel, hi]
  · simp [relabel, hi]
  · have hleft : ∀ l ∈ left, l ∈ s.labels := hin left (by simp [hi])
    have hright : ∀ l ∈ right, l ∈ s.labels := hin right (by simp [hi])
    have hr : (s.relabel f).inputs = [left.map f, right.map f] := by simp [relabel, hi]
    have ho : (s.relabel f).output = s.output.map f := rfl
    simp only [hr, ho, List.length_map, firsts_map f left (hf.mono hleft),
      firsts_map f right (hf.mono hright), commonLabels_map hf hleft hright]
    rcases hc : commonLabels left right with _ | ⟨l, _ | ⟨m, ms⟩⟩
    · simp
    · have hl : l ∈ s.labels :=
        hleft l (mem_commonLabels.mp (hc ▸ List.mem_singleton_self l)).1
      have hall : ∀ m ∈ left ++ right, m ∈ s.labels := by
        intro m hm
        exact (List.mem_append.mp hm).elim (hleft m) (hright m)
      have hfree : (left.map f ++ right.map f).filter (· ≠ f l) =
          ((left ++ right).filter (· ≠ l)).map f := by
        rw [← List.map_append, List.filter_map]
        congr 1
        apply List.filter_congr
        intro m hm
        simp [hf.eq_iff (hall m hm) hl]
      have hfm : ∀ m ∈ (left ++ right).filter (· ≠ l), m ∈ s.labels :=
        fun m hm => hall m (List.mem_filter.mp hm).1
      have h₁ : (s.output.map f).contains (f l) = s.output.contains l := by
        simp only [List.contains_eq_mem, mem_map_iff_of_injOn hf hl hout]
      simp only [List.map_cons, List.map_nil, hfree, h₁, all_mem_map hf hout hfm,
        all_mem_map hf hfm hout]
    · simp
  · simp [relabel, hi]

/-- The kind of operation does not depend on the names of labels. -/
theorem kind_relabel (special : Bool) : (s.relabel f).kind special = s.kind special := by
  have hs : (s.relabel f).summed.isEmpty = s.summed.isEmpty := by
    rw [Bool.eq_iff_iff, List.isEmpty_iff_length_eq_zero, List.isEmpty_iff_length_eq_zero,
      (summed_relabel_perm hf).length_eq, List.length_map]
  unfold kind
  rw [isMatrixProduct_relabel hf, hs]
  match hi : s.inputs with
  | [] | [_, _] | _ :: _ :: _ :: _ => simp [relabel, hi]
  | [g] =>
    have hlab : ∀ l ∈ g, l ∈ s.labels :=
      fun l hl => s.mem_labels.mpr (.inl (s.mem_axes.mpr ⟨g, by simp [hi], hl⟩))
    have hr : (s.relabel f).inputs = [g.map f] := by simp [relabel, hi]
    have ha : ((repeated g).map f).any (· ∉ (s.relabel f).output) =
        (repeated g).any (· ∉ s.output) := by
      rw [← Bool.not_inj_iff]
      simp only [List.not_any_eq_all_not, Bool.not_not, decide_not]
      exact all_mem_map hf (fun l hl => hlab l (List.count_pos_iff.mp (by
        have := mem_repeated.mp hl
        omega))) fun l hl => s.mem_labels.mpr (.inr hl)
    simp only [hr, repeated_map hf hlab, ha, List.isEmpty_map]

end Subscripts

end Einsum
