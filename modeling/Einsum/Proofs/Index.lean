import Einsum.Proofs.Summation

namespace Einsum

theorem mem_tuples {ns bounds : List Nat} :
    ns ∈ tuples bounds ↔ List.Forall₂ (· < ·) ns bounds := by
  induction bounds generalizing ns with
  | nil => simp [tuples]
  | cons n bounds ih =>
    simp only [tuples, List.mem_flatMap, List.mem_range, List.mem_map, ih]
    constructor
    · rintro ⟨i, hi, is, his, rfl⟩
      exact List.Forall₂.cons hi his
    · intro h
      obtain ⟨i, is, hi, his, rfl⟩ := List.forall₂_cons_right_iff.mp h
      exact ⟨i, hi, is, his, rfl⟩

theorem map_mem_tuples {a sizes : Assignment} {ls : Group} :
    ls.map a ∈ tuples (ls.map sizes) ↔ ∀ l ∈ ls, a l < sizes l := by
  rw [mem_tuples, List.forall₂_map_left_iff, List.forall₂_map_right_iff, List.forall₂_same]

def Assignment.ofIndex (ls : Group) (ns : List Nat) : Assignment := fun l => ns.getD (ls.idxOf l) 0

theorem map_ofIndex {sizes : Assignment} {ls : Group} (hn : ls.Nodup) {ns : List Nat}
    (h : ns ∈ tuples (ls.map sizes)) : ls.map (Assignment.ofIndex ls ns) = ns := by
  have hl : ns.length = ls.length := by simpa using (mem_tuples.mp h).length_eq
  apply List.ext_getElem (by simp [hl])
  intro k hk hk'
  simp [Assignment.ofIndex, hn.idxOf_getElem, hk']

theorem flatMap_range' (start n size : Nat) :
    ((List.range n).flatMap fun i => List.range' ((start + i) * size) size) =
      List.range' (start * size) (n * size) := by
  induction n with
  | zero => simp
  | succ n ih =>
    rw [List.range_succ, List.flatMap_append, ih, List.flatMap_singleton, Nat.add_mul start n,
      Nat.add_mul n 1, Nat.one_mul, List.range'_append_1]

/-- Row-major order passes over the places of an array one after the other. -/
theorem map_offsetFrom_tuples (start : Nat) (shape : Shape) :
    (tuples shape).map (offsetFrom start shape) = List.range' (start * shape.size) shape.size := by
  induction shape generalizing start with
  | nil => simp [tuples, offsetFrom, Shape.size]
  | cons n shape ih =>
    have hi (i : Nat) : ((tuples shape).map (i :: ·)).map (offsetFrom start (n :: shape)) =
        List.range' ((start * n + i) * Shape.size shape) (Shape.size shape) := by
      rw [List.map_map, ← ih]
      rfl
    have hs : Shape.size (n :: shape) = n * Shape.size shape := rfl
    simp only [tuples, List.map_flatMap, hi, hs]
    rw [flatMap_range', Nat.mul_assoc]

theorem map_offset_tuples (shape : Shape) :
    (tuples shape).map (offset shape) = List.range shape.size := by
  have h := map_offsetFrom_tuples 0 shape
  rw [Nat.zero_mul, ← List.range_eq_range'] at h
  exact h

theorem offset_lt {shape : Shape} {ns : List Nat} (h : ns ∈ tuples shape) :
    offset shape ns < shape.size := by
  rw [← List.mem_range, ← map_offset_tuples]
  exact List.mem_map_of_mem h

theorem offset_inj {shape : Shape} {ns ms : List Nat} (hn : ns ∈ tuples shape)
    (hm : ms ∈ tuples shape) :
    offset shape ns = offset shape ms ↔ ns = ms := by
  have hd : ((tuples shape).map (offset shape)).Nodup := by
    rw [map_offset_tuples]
    exact List.nodup_range
  exact ⟨fun h => List.inj_on_of_nodup_map hd hn hm h, fun h => h ▸ rfl⟩

namespace Tensor

variable {α : Type} {t : Tensor α} {missing : α}

def IsFull (t : Tensor α) : Prop := t.data.size = t.shape.size

theorem isFull_fill (type : ElemType) (shape : Shape) (a : α) : (fill type shape a).IsFull := by
  simp [IsFull, fill]

theorem get_fill (type : ElemType) {shape : Shape} {ns : List Nat} (a : α)
    (h : ns ∈ tuples shape) :
    (fill type shape a).get missing ns = a := by
  have ho := offset_lt h
  simp [get, fill, Array.getD, ho]

theorem IsFull.set (h : t.IsFull) (ns : List Nat) (a : α) : (t.set ns a).IsFull := by
  simpa [IsFull, Tensor.set] using h

theorem get_set (h : t.IsFull) {ns ms : List Nat} (hn : ns ∈ tuples t.shape)
    (hm : ms ∈ tuples t.shape) (a : α) :
    (t.set ns a).get missing ms = if ns = ms then a else t.get missing ms := by
  have hs : offset t.shape ms < t.data.size := h ▸ offset_lt hm
  have hi := offset_inj hn hm
  simp only [get, Tensor.set, Array.getD, Array.size_setIfInBounds, hs, dif_pos,
    Array.getInternal_eq_getElem, Array.getElem_setIfInBounds, hi]

theorem toList_data (missing : α) (h : t.IsFull) :
    t.data.toList = (tuples t.shape).map (t.get missing) := by
  have hg : (tuples t.shape).map (t.get missing) =
      (List.range t.shape.size).map (t.data.getD · missing) := by
    rw [← map_offset_tuples, List.map_map]
    rfl
  rw [hg, ← h]
  apply List.ext_getElem (by simp)
  intro k hk hk'
  have hks : k < t.data.size := by simpa using hk
  simp [hks]

def tabulate (type : ElemType) (shape : Shape) (f : List Nat → α) : Tensor α :=
  ⟨type, shape, ((tuples shape).map f).toArray⟩

theorem length_tuples (shape : Shape) : (tuples shape).length = shape.size := by
  simpa using congrArg List.length (map_offset_tuples shape)

theorem isFull_tabulate (type : ElemType) (shape : Shape) (f : List Nat → α) :
    (tabulate type shape f).IsFull := by
  simp [IsFull, tabulate, length_tuples]

theorem get_tabulate (type : ElemType) {shape : Shape} (f : List Nat → α) {ns : List Nat}
    (h : ns ∈ tuples shape) : (tabulate type shape f).get missing ns = f ns := by
  have hlt : offset shape ns < (tuples shape).length := by
    rw [length_tuples]
    exact offset_lt h
  have ho : offset shape (tuples shape)[offset shape ns] = offset shape ns := by
    have hm :=
      List.getElem_of_eq (map_offset_tuples shape) (by simpa using hlt : offset shape ns < _)
    simpa using hm
  have hns : (tuples shape)[offset shape ns] = ns := (offset_inj (List.getElem_mem hlt) h).mp ho
  have hs : offset shape ns < ((tuples shape).map f).toArray.size := by simpa using hlt
  simp only [get, tabulate, Array.getD, hs, dif_pos, Array.getInternal_eq_getElem,
    List.getElem_toArray, List.getElem_map, hns]

theorem ext_get (missing : α) {u : Tensor α} (ht : t.IsFull) (hu : u.IsFull)
    (type : t.type = u.type) (shape : t.shape = u.shape)
    (get : ∀ ns ∈ tuples t.shape, t.get missing ns = u.get missing ns) :
    t = u := by
  have hd : t.data = u.data := by
    apply Array.toList_inj.mp
    rw [toList_data missing ht, toList_data missing hu, ← shape]
    exact List.map_congr_left get
  cases t
  cases u
  simp_all

end Tensor

section

variable {α ι : Type} (index : ι → List Nat) (update : α → ι → α) (missing : α)

/-- Elements updated one after the other, each from its own former value. -/
def scatter (t : Tensor α) (is : List ι) : Tensor α :=
  is.foldl (fun t i => t.set (index i) (update (t.get missing (index i)) i)) t

theorem scatter_append (t : Tensor α) (is js : List ι) :
    scatter index update missing t (is ++ js) =
      scatter index update missing (scatter index update missing t is) js :=
  List.foldl_append

theorem scatter_type (t : Tensor α) (is : List ι) :
    (scatter index update missing t is).type = t.type := by
  induction is generalizing t with
  | nil => rfl
  | cons i is ih => exact ih _

theorem scatter_shape (t : Tensor α) (is : List ι) :
    (scatter index update missing t is).shape = t.shape := by
  induction is generalizing t with
  | nil => rfl
  | cons i is ih => exact ih _

theorem scatter_isFull {t : Tensor α} (h : t.IsFull) (is : List ι) :
    (scatter index update missing t is).IsFull := by
  induction is generalizing t with
  | nil => exact h
  | cons i is ih => exact ih (h.set _ _)

/-- An element sees the updates of its own index, in their order. -/
theorem get_scatter {t : Tensor α} (h : t.IsFull) {is : List ι}
    (hi : ∀ i ∈ is, index i ∈ tuples t.shape) {ns : List Nat} (hn : ns ∈ tuples t.shape) :
    (scatter index update missing t is).get missing ns =
      (is.filter fun i => index i = ns).foldl update (t.get missing ns) := by
  induction is generalizing t with
  | nil => rfl
  | cons i is ih =>
    have hi' := hi i List.mem_cons_self
    have hs := ih (t := t.set (index i) (update (t.get missing (index i)) i)) (h.set _ _)
      (fun j hj => hi j (List.mem_cons_of_mem i hj)) hn
    rw [Tensor.get_set h hi' hn] at hs
    refine hs.trans ?_
    by_cases he : index i = ns
    · subst ns
      simp
    · simp [he]

end

theorem foldl_const {α ι : Type} {v : ι → α} {x y : α} {is : List ι} (hne : is ≠ [])
    (h : ∀ i ∈ is, v i = y) :
    is.foldl (fun _ i => v i) x = y := by
  induction is generalizing x with
  | nil => exact absurd rfl hne
  | cons i is ih =>
    rw [List.foldl_cons]
    by_cases hi : is = []
    · rw [hi, List.foldl_nil, h i List.mem_cons_self]
    · exact ih hi fun j hj => h j (List.mem_cons_of_mem i hj)

theorem get_written {α : Type} {missing y : α} {sizes a c : Assignment} {ls : Group}
    {v : Assignment → α} {t : Tensor α} (hs : t.shape = ls.map sizes) (hf : t.IsFull)
    (ha : a.Below sizes ls)
    (hv : ∀ b ∈ assignments sizes ls c, (∀ l ∈ ls, b l = a l) → v b = y) :
    (scatter (fun b : Assignment => ls.map b) (fun _ b => v b) missing t
      (assignments sizes ls c)).get missing (ls.map a) = y := by
  have hm (b : Assignment) (hb : b.Below sizes ls) : ls.map b ∈ tuples t.shape :=
    hs ▸ map_mem_tuples.mpr hb
  rw [get_scatter _ _ _ hf (fun b hb => hm b (mem_assignments.mp hb).1) (hm a ha)]
  apply foldl_const
  · let b : Assignment := fun l => if l ∈ ls then a l else c l
    have hb : b ∈ assignments sizes ls c := by
      refine mem_assignments.mpr ⟨fun l hl => ?_, fun l hl => if_neg hl⟩
      simpa [b, hl] using ha l hl
    have he : ls.map b = ls.map a := List.map_congr_left fun l hl => if_pos hl
    exact List.ne_nil_of_mem (List.mem_filter.mpr ⟨hb, decide_eq_true he⟩)
  · intro b hb
    obtain ⟨hb, he⟩ := List.mem_filter.mp hb
    exact hv b hb (List.map_inj_left.mp (of_decide_eq_true he))

end Einsum
