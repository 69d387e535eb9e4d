import Einsum.Proofs.Fault
import Einsum.Proofs.Kernel

namespace Einsum

variable {α : Type}

/-- A number in an accumulator and an element of the result take up the same terms, `limit` of them
at most. What the accumulator would be stored as is what the element has become. -/
structure Lockstep (ops : Arithmetic α) (d : ElemType) (limit : Nat) (Term : α → Prop)
    (R : Nat → α → α → Prop) : Prop where
  start : R 0 ops.literalZero (ops.zero d)
  step : ∀ k < limit, ∀ x y z, R k x y → Term z →
    R (k + 1) (ops.add x z) (ops.store d (ops.add y z))
  store : ∀ k ≤ limit, ∀ x y, R k x y → ops.store d x = y

theorem Lockstep.foldl {ops : Arithmetic α} {d : ElemType} {limit : Nat} {Term : α → Prop}
    {R : Nat → α → α → Prop} (h : Lockstep ops d limit Term R) {w : Assignment → α}
    {bs : List Assignment} (hw : ∀ b ∈ bs, Term (w b)) {k : Nat} {x y : α}
    (hk : k + bs.length ≤ limit) (hr : R k x y) :
    R (k + bs.length) (bs.foldl (fun x b => ops.add x (w b)) x) (bs.foldl (grow ops d w) y) := by
  induction bs generalizing k x y with
  | nil => exact hr
  | cons b bs ih =>
    rw [List.length_cons] at hk
    have hb := h.step k (by omega) x y (w b) hr (hw b List.mem_cons_self)
    have hi := ih (fun c hc => hw c (List.mem_cons_of_mem b hc)) (by omega) hb
    rwa [List.length_cons, ← Nat.add_assoc, Nat.add_right_comm]

section

variable (ops : Arithmetic α) (operands : List (Tensor α)) (sizes c : Assignment)

theorem result_reductionBody (s : Subscripts) (st : Store α) :
    ((reductionBody s).run ops operands sizes c st).result =
      scatter (fun a : Assignment => s.output.map a)
        (fun _ a => ops.store st.result.type (reduced ops operands sizes s a))
        ops.literalZero st.result (assignments sizes s.output c) := by
  obtain ⟨flat, hbody⟩ := reductionBody_eq s
  have hsums (a : Assignment) : Sums ops.lenient operands s.accesses (assignments sizes s.summed a)
      fun _ => True :=
    ⟨trivial, fun _ _ _ _ => trivial, fun _ _ => rfl⟩
  have hcells : ∀ a ∈ assignments sizes s.output c, Writes (reductionCell s flat)
      (fun a => s.output.map a)
      (reduced ops.lenient operands sizes s) ops.lenient operands sizes a :=
    fun a _ => reductionCell_writes flat (fun _ => rfl) (hsums a)
  have hw := (foldl_writes ops.literalZero hcells st.forgiven).1
  rw [← run_loops, ← hbody, ← Block.run_lenient] at hw
  exact hw

theorem MatrixProduct.result_body {s : Subscripts} {left right : Group} {row shared column : Label}
    (hp : MatrixProduct s left right row shared column) {st : Store α}
    (hs : st.result.shape = s.output.map sizes) (hf : st.result.IsFull) :
    ((nest [row, shared] (matrixCell s.output ⟨0, left⟩ ⟨1, right⟩ column)).run ops operands
      sizes c st).result = grown ops s.output (fun b => product ops operands b s.accesses) st.result
        (assignments sizes [row, shared, column] c) := by
  have hg : Grows ops.lenient st.forgiven.result.type
      (fun b => product ops.lenient operands b s.accesses)
      (assignments sizes [row, shared, column] c) fun _ => True :=
    ⟨fun _ _ _ _ => rfl, fun _ _ _ _ => trivial⟩
  have hr := (hp.run_body st.forgiven hg hs hf fun _ _ => trivial).1
  rw [← Block.run_lenient] at hr
  exact hr

end

section

variable {ops : Arithmetic α} {operands : List (Tensor α)} {sizes c : Assignment} {s : Subscripts}
  {left right : Group} {row shared column : Label}
  (hp : MatrixProduct s left right row shared column)

include hp

theorem MatrixProduct.update_eq {a : Assignment} (ha : a ∈ assignments sizes s.output c) :
    Function.update (Function.update c row (a row)) column (a column) = a := by
  funext l
  by_cases hc : l = column
  · rw [hc, Function.update_self]
  · rw [Function.update_of_ne hc]
    by_cases hr : l = row
    · rw [hr, Function.update_self]
    · rw [Function.update_of_ne hr]
      refine ((mem_assignments.mp ha).2 l fun hl => ?_).symm
      rcases List.mem_pair.mp (hp.output_perm.mem_iff.mp hl) with rfl | rfl
      · exact hr rfl
      · exact hc rfl

/-- A matrix product adds up the same products as a reduction, in the same order for each element of
the result, and comes to the same elements. -/
theorem MatrixProduct.interchange {d : ElemType} {limit : Nat} {Term : α → Prop}
    {R : Nat → α → α → Prop} (hl : Lockstep ops d limit Term R)
    (hlim : sizes shared ≤ limit)
    (hw : ∀ b : Assignment, b.Below sizes s.axes → Term (product ops operands b s.accesses))
    (hn : s.output.Nodup) (c : Assignment) (st : Store α)
    (hr : st.result = .fill d (s.output.map sizes) (ops.zero d)) :
    ((nest [row, shared] (matrixCell s.output ⟨0, left⟩ ⟨1, right⟩ column)).run ops operands
      sizes c st).result = ((reductionBody s).run ops operands sizes c st).result := by
  have hs : st.result.shape = s.output.map sizes := by rw [hr]; rfl
  have hf : st.result.IsFull := by rw [hr]; exact Tensor.isFull_fill ..
  have ht : st.result.type = d := by rw [hr]; rfl
  rw [hp.result_body ops operands sizes c hs hf, result_reductionBody]
  refine Tensor.ext_get ops.literalZero (scatter_isFull _ _ _ hf _)
    (scatter_isFull _ _ _ hf _) ?_ ?_ ?_
  · rw [grown, scatter_type, scatter_type]
  · rw [grown, scatter_shape, scatter_shape]
  · intro ns hns
    rw [grown, scatter_shape, hs] at hns
    have he := map_ofIndex hn hns
    have ha := map_mem_tuples.mp (he.symm ▸ hns)
    generalize Assignment.ofIndex s.output ns = a at he ha
    rw [← he]
    refine (hp.get_grown hs hf ha).trans (get_written hs hf ha fun a' ha' haa => ?_).symm
    have hrow : a row = a' row := (haa row hp.row_mem).symm
    have hcolumn : a column = a' column := (haa column hp.column_mem).symm
    have hzero : st.result.get ops.literalZero (s.output.map a) = ops.zero d := by
      rw [hr]
      exact Tensor.get_fill d _ (map_mem_tuples.mpr ha)
    rw [hrow, hcolumn, hp.update_eq ha', hzero, ht]
    have hbelow : ∀ b ∈ assignments sizes [shared] a',
        Term (product ops operands b s.accesses) := by
      intro b hb
      rw [← hp.summed_eq] at hb
      exact hw b (below_axes (mem_assignments.mp ha').1 hb)
    have hlen : (assignments sizes [shared] a').length = sizes shared := by
      rw [length_assignments, List.map_singleton, List.prod_singleton]
    have hreduced : reduced ops operands sizes s a' =
        total ops operands s.accesses (assignments sizes [shared] a') ops.literalZero := by
      rw [reduced, hp.summed_eq]
      rfl
    rw [hreduced]
    have hfold := hl.foldl hbelow (by rw [hlen, Nat.zero_add]; exact hlim) hl.start
    exact hl.store _ (by rw [hlen, Nat.zero_add]; exact hlim) _ _ hfold

end

structure Arithmetic.Lasting (ops : Arithmetic α) (d : ElemType) : Prop where
  add : ∀ x y, ops.fault? x ≠ none → ops.fault? (ops.add x y) ≠ none
  store : ∀ x, ops.fault? x ≠ none → ops.fault? (ops.store d x) ≠ none

section

variable {ops : Arithmetic α} {d : ElemType} (h : ops.Lasting d) {operands : List (Tensor α)}
  {sizes c : Assignment} {s : Subscripts}

include h

theorem failure_accumulate (factors : List Access) (bs : List Assignment) (st : Store α) :
    let final := bs.foldl (fun u b => (Statement.accumulate factors).run ops operands b u) st
    final.accumulator = total ops operands factors bs st.accumulator ∧
      (final.failure ≠ none → st.failure ≠ none ∨
        ops.fault? final.accumulator ≠ none) := by
  induction bs using List.reverseRecOn with
  | nil => exact ⟨rfl, .inl⟩
  | append_singleton bs b ih =>
    obtain ⟨ha, hf⟩ := ih
    simp only [List.foldl_append, List.foldl_cons, List.foldl_nil, total]
    refine ⟨?_, fun hne => ?_⟩
    · rw [total] at ha
      rw [← ha]
      rfl
    · by_cases hu : (bs.foldl (fun u b => (Statement.accumulate factors).run ops operands b u)
        st).failure = none
      · right
        intro hsum
        exact hne (Option.or_eq_none_iff.mpr ⟨hu, hsum⟩)
      · exact (hf hu).imp_right fun hx => h.add _ _ hx

theorem failure_reductionCell (flat : Bool) (a : Assignment) (st : Store α)
    (hne : ((reductionCell s flat).run ops operands sizes a st).failure ≠ none) :
    st.failure ≠ none ∨ ops.fault? (reduced ops operands sizes s a) ≠ none := by
  rw [reductionCell] at hne
  rw [reduced]
  split at hne
  next hs =>
    rw [if_pos hs]
    by_contra hno
    obtain ⟨hst, hv⟩ := not_or.mp hno
    exact hne (Option.or_eq_none_iff.mpr ⟨not_not.mp hst, not_not.mp hv⟩)
  next hs =>
    rw [if_neg hs]
    simp only [Block.run, run_loops] at hne
    obtain ⟨ha, hf⟩ := failure_accumulate h s.accesses (assignments sizes s.summed a)
      ((Statement.clear).run ops operands a st)
    have hacc : _ = total ops operands s.accesses (assignments sizes s.summed a) ops.literalZero :=
      ha
    rw [← hacc]
    exact hf hne

theorem failure_reductionBody {st : Store α} (ht : st.result.type = d)
    (hs : st.result.shape = s.output.map sizes) (hf : st.result.IsFull) (hst : st.failure = none)
    (hclean : ((reductionBody s).run ops operands sizes c st).result.Each
      fun x => ops.fault? x = none)
    (hz : ops.fault? ops.literalZero = none) :
    ((reductionBody s).run ops operands sizes c st).failure = none := by
  obtain ⟨flat, hbody⟩ := reductionBody_eq s
  have hcells : ∀ a ∈ assignments sizes s.output c,
      ops.fault? (reduced ops operands sizes s a) = none := by
    intro a ha
    by_contra hne
    have hget : ((reductionBody s).run ops operands sizes c st).result.get ops.literalZero
        (s.output.map a) = ops.store d (reduced ops operands sizes s a) := by
      rw [result_reductionBody, ht]
      refine get_written hs hf (mem_assignments.mp ha).1 fun b hb hba => ?_
      have he : b = a := by
        funext l
        by_cases hl : l ∈ s.output
        · exact hba l hl
        · rw [(mem_assignments.mp hb).2 l hl, (mem_assignments.mp ha).2 l hl]
      rw [he]
    have hnone := hclean.get hz (s.output.map a)
    rw [hget] at hnone
    exact h.store _ hne hnone
  rw [hbody, run_loops]
  refine List.foldlRecOn (motive := fun u : Store α => u.failure = none) _ _ hst
    fun u hu a ha => ?_
  by_contra hne
  rcases failure_reductionCell h flat a u hne with hu' | hr
  · exact hu' hu
  · exact hr (hcells a ha)

structure Store.Shows (ops : Arithmetic α) (d : ElemType) (bounds : Shape) (u : Store α) :
    Prop where
  type : u.result.type = d
  shape : u.result.shape = bounds
  full : u.result.IsFull
  fault : u.failure ≠ none →
    ∃ ns ∈ tuples bounds, ops.fault? (u.result.get ops.literalZero ns) ≠ none

theorem Store.Shows.addHeld {bounds : Shape} {u : Store α} (hu : u.Shows ops d bounds)
    {target : Group} {factor : Access} {b : Assignment} (hb : target.map b ∈ tuples bounds) :
    ((Statement.addHeld target factor).run ops operands b u).Shows ops d bounds := by
  have hb' : target.map b ∈ tuples u.result.shape := hu.shape ▸ hb
  refine ⟨hu.type, hu.shape, hu.full.set _ _, fun hne => ?_⟩
  by_cases hf : u.failure = none
  · refine ⟨_, hb, ?_⟩
    have hsum : ops.fault? (ops.add (u.result.get ops.literalZero (target.map b))
        (ops.mul u.held (factor.read ops operands b))) ≠ none :=
      fun hsum => hne (Option.or_eq_none_iff.mpr ⟨hf, hsum⟩)
    have hget : ((Statement.addHeld target factor).run ops operands b u).result.get ops.literalZero
        (target.map b) =
        ops.store u.result.type (ops.add (u.result.get ops.literalZero (target.map b))
          (ops.mul u.held (factor.read ops operands b))) :=
      (Tensor.get_set hu.full hb' hb' _).trans (if_pos rfl)
    rw [hget, hu.type]
    exact h.store _ hsum
  · obtain ⟨ns, hns, hx⟩ := hu.fault hf
    refine ⟨ns, hns, ?_⟩
    have hget : ((Statement.addHeld target factor).run ops operands b u).result.get ops.literalZero
        ns = _ :=
      Tensor.get_set hu.full hb' (hu.shape ▸ hns) _
    rw [hget]
    split
    next he =>
      rw [he, hu.type]
      exact h.store _ (h.add _ _ hx)
    next => exact hx

theorem MatrixProduct.failure_body {left right : Group} {row shared column : Label}
    (hp : MatrixProduct s left right row shared column) {st : Store α} (ht : st.result.type = d)
    (hs : st.result.shape = s.output.map sizes) (hf : st.result.IsFull) (hst : st.failure = none)
    (hclean : ((nest [row, shared] (matrixCell s.output ⟨0, left⟩ ⟨1, right⟩ column)).run
      ops operands sizes c
      st).result.Each fun x => ops.fault? x = none) (hz : ops.fault? ops.literalZero = none) :
    ((nest [row, shared] (matrixCell s.output ⟨0, left⟩ ⟨1, right⟩ column)).run ops operands
      sizes c st).failure = none := by
  have hshows : ((nest [row, shared] (matrixCell s.output ⟨0, left⟩ ⟨1, right⟩ column)).run
      ops operands sizes c st).Shows ops d (s.output.map sizes) := by
    rw [run_nest]
    refine List.foldlRecOn (motive := fun u : Store α => u.Shows ops d (s.output.map sizes)) _ _
      ⟨ht, hs, hf, fun hne => absurd hst hne⟩ fun u hu a ha => ?_
    simp only [matrixCell, Block.run, run_nest]
    refine List.foldlRecOn (motive := fun u : Store α => u.Shows ops d (s.output.map sizes)) _ _
      ⟨hu.type, hu.shape, hu.full, hu.fault⟩ fun u hu b hb => ?_
    have hmem : b ∈ assignments sizes [row, shared, column] c := by
      have happ : assignments sizes [row, shared, column] c =
          (assignments sizes [row, shared] c).flatMap (assignments sizes [column]) :=
        assignments_append [row, shared] [column]
      rw [happ]
      exact List.mem_flatMap.mpr ⟨a, ha, hb⟩
    exact hu.addHeld h (hp.map_output_mem hmem)
  by_contra hne
  obtain ⟨ns, -, hx⟩ := hshows.fault hne
  exact hx (hclean.get hz ns)

end

end Einsum
