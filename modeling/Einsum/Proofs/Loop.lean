import Einsum.Kernel.Body
import Einsum.Proofs.Index

namespace Einsum

theorem map_bind_tuples (sizes a : Assignment) (ls : Group) :
    (tuples (ls.map sizes)).map (a.bind ls) = assignments sizes ls a := by
  induction ls generalizing a with
  | nil => rfl
  | cons l ls ih =>
    have hu (i : Nat) : (fun m => if m = l then i else a m) = Function.update a l i := by
      funext m
      rw [Function.update_apply]
    simp only [List.map_cons, tuples, List.map_flatMap, List.map_map, assignments, ← ih]
    congr 1
    funext i
    apply List.map_congr_left
    intro ns _
    rw [Function.comp_apply, Assignment.bind, hu]

section

variable {α : Type} (ops : Arithmetic α) (operands : List (Tensor α)) (sizes : Assignment)

theorem run_loop (ls : Group) (b : Block) (a : Assignment) (s : Store α) :
    (Block.loop ls b).run ops operands sizes a s =
      (assignments sizes ls a).foldl (fun s a => b.run ops operands sizes a s) s := by
  rw [Block.run, ← map_bind_tuples, List.foldl_map]

theorem run_nest (ls : Group) (b : Block) (a : Assignment) (s : Store α) :
    (nest ls b).run ops operands sizes a s =
      (assignments sizes ls a).foldl (fun s a => b.run ops operands sizes a s) s := by
  induction ls generalizing a s with
  | nil => rfl
  | cons l ls ih =>
    have hl : nest (l :: ls) b = .loop [l] (nest ls b) := rfl
    have ha : assignments sizes (l :: ls) a =
        (assignments sizes [l] a).flatMap (assignments sizes ls) := assignments_append [l] ls
    rw [hl, run_loop, ha, List.foldl_flatMap]
    simp only [ih]

/-- A nest and a single loop over tuples do the same. -/
theorem run_loops (flat : Bool) (ls : Group) (b : Block) (a : Assignment) (s : Store α) :
    (loops flat ls b).run ops operands sizes a s =
      (assignments sizes ls a).foldl (fun s a => b.run ops operands sizes a s) s := by
  rw [loops]
  split
  · exact run_loop ops operands sizes ls b a s
  · exact run_nest ops operands sizes ls b a s

def total (factors : List Access) (bs : List Assignment) (x : α) : α :=
  bs.foldl (fun x b => ops.add x (product ops operands b factors)) x

structure Sums (factors : List Access) (bs : List Assignment) (I : α → Prop) : Prop where
  zero : I ops.literalZero
  add : ∀ x, I x → ∀ b ∈ bs, I (ops.add x (product ops operands b factors))
  sound : ∀ x, I x → ops.fault? x = none

variable {ops operands sizes}

theorem foldl_accumulate {factors : List Access} {bs : List Assignment} {I : α → Prop}
    (h : Sums ops operands factors bs I) {s : Store α} (hs : I s.accumulator) :
    bs.foldl (fun s b => (Statement.accumulate factors).run ops operands b s) s =
      { s with accumulator := total ops operands factors bs s.accumulator } := by
  induction bs generalizing s with
  | nil => rfl
  | cons b bs ih =>
    have hb := h.add _ hs b List.mem_cons_self
    have ht : Sums ops operands factors bs I :=
      ⟨h.zero, fun x hx c hc => h.add x hx c (List.mem_cons_of_mem b hc), h.sound⟩
    have he : (Statement.accumulate factors).run ops operands b s =
        { s with accumulator := ops.add s.accumulator (product ops operands b factors) } := by
      simp [Statement.run, Store.note, h.sound _ hb]
    rw [List.foldl_cons, he, ih ht hb]
    rfl

def reduced (ops : Arithmetic α) (operands : List (Tensor α)) (sizes : Assignment)
    (s : Subscripts) (a : Assignment) : α :=
  if s.summed.isEmpty then product ops operands a s.accesses
  else total ops operands s.accesses (assignments sizes s.summed a) ops.literalZero

structure Writes (b : Block) (index : Assignment → List Nat) (value : Assignment → α)
    (ops : Arithmetic α) (operands : List (Tensor α)) (sizes a : Assignment) : Prop where
  result : ∀ s : Store α, (b.run ops operands sizes a s).result =
    s.result.set (index a) (ops.store s.result.type (value a))
  failure : ∀ s : Store α, (b.run ops operands sizes a s).failure = s.failure

theorem foldl_writes {b : Block} {index : Assignment → List Nat} {value : Assignment → α}
    (missing : α) {as : List Assignment}
    (h : ∀ a ∈ as, Writes b index value ops operands sizes a) (s : Store α) :
    (as.foldl (fun s a => b.run ops operands sizes a s) s).result =
        scatter index (fun _ a => ops.store s.result.type (value a)) missing s.result as ∧
      (as.foldl (fun s a => b.run ops operands sizes a s) s).failure = s.failure := by
  induction as generalizing s with
  | nil => exact ⟨rfl, rfl⟩
  | cons a as ih =>
    have ha := h a List.mem_cons_self
    obtain ⟨hr, hf⟩ :=
      ih (fun c hc => h c (List.mem_cons_of_mem a hc)) (b.run ops operands sizes a s)
    rw [List.foldl_cons, hr, hf, ha.failure, ha.result]
    exact ⟨rfl, rfl⟩

def reductionCell (s : Subscripts) (flat : Bool) : Block :=
  if s.summed.isEmpty then .atom (.assign s.output s.accesses)
  else .seq (.atom .clear) (.seq (loops flat s.summed (.atom (.accumulate s.accesses)))
    (.atom (.flush s.output)))

theorem reductionBody_eq (s : Subscripts) :
    ∃ flat, reductionBody s = loops flat s.output (reductionCell s flat) :=
  ⟨_, rfl⟩

theorem reductionCell_writes {s : Subscripts} {a : Assignment} {I : α → Prop} (flat : Bool)
    (hp : s.summed = [] → ops.fault? (product ops operands a s.accesses) = none)
    (hi : Sums ops operands s.accesses (assignments sizes s.summed a) I) :
    Writes (reductionCell s flat) (fun a => s.output.map a) (reduced ops operands sizes s)
      ops operands sizes a := by
  by_cases hs : s.summed = []
  · have hn := hp hs
    have hc : reductionCell s flat = .atom (.assign s.output s.accesses) := by
      simp [reductionCell, hs]
    have hv : reduced ops operands sizes s a = product ops operands a s.accesses := by
      simp [reduced, hs]
    rw [hc]
    constructor
    · intro st
      simp [Block.run, Statement.run, Store.write, Store.note, hv]
    · intro st
      simp [Block.run, Statement.run, Store.write, Store.note, hn]
  · have hc : reductionCell s flat = .seq (.atom .clear)
        (.seq (loops flat s.summed (.atom (.accumulate s.accesses)))
          (.atom (.flush s.output))) := by
      simp [reductionCell, hs]
    have hv : reduced ops operands sizes s a =
        total ops operands s.accesses (assignments sizes s.summed a) ops.literalZero := by
      simp [reduced, hs]
    have hr (st : Store α) : (reductionCell s flat).run ops operands sizes a st =
        { st with accumulator := reduced ops operands sizes s a }.write ops (s.output.map a)
          (reduced ops operands sizes s a) := by
      have hf := foldl_accumulate hi (s := { st with accumulator := ops.literalZero }) hi.zero
      rw [hc]
      simp only [Block.run, run_loops]
      simp only [Statement.run] at hf ⊢
      rw [hf, hv]
    constructor
    · intro st
      rw [hr]
      rfl
    · intro st
      rw [hr]
      rfl

/-- Elements that stay sound while products are added to them in place. -/
structure Grows (ops : Arithmetic α) (type : ElemType) (w : Assignment → α)
    (bs : List Assignment) (I : α → Prop) : Prop where
  sound : ∀ x, I x → ∀ b ∈ bs, ops.fault? (ops.add x (w b)) = none
  store : ∀ x, I x → ∀ b ∈ bs, I (ops.store type (ops.add x (w b)))

theorem Grows.mono {type : ElemType} {w : Assignment → α} {bs cs : List Assignment}
    {I : α → Prop} (h : Grows ops type w bs I) (hs : ∀ b ∈ cs, b ∈ bs) :
    Grows ops type w cs I :=
  ⟨fun x hx b hb => h.sound x hx b (hs b hb), fun x hx b hb => h.store x hx b (hs b hb)⟩

def grow (ops : Arithmetic α) (type : ElemType) (w : Assignment → α) (x : α) (b : Assignment) :
    α :=
  ops.store type (ops.add x (w b))

def grown (ops : Arithmetic α) (target : Group) (w : Assignment → α) (t : Tensor α)
    (bs : List Assignment) : Tensor α :=
  scatter (fun b => target.map b) (grow ops t.type w) ops.literalZero t bs

def Tensor.All (I : α → Prop) (missing : α) (t : Tensor α) : Prop :=
  ∀ ns ∈ tuples t.shape, I (t.get missing ns)

theorem Tensor.All.set {I : α → Prop} {missing x : α} {t : Tensor α} (h : t.All I missing)
    (hf : t.IsFull) {ns : List Nat} (hn : ns ∈ tuples t.shape) (hx : I x) :
    (t.set ns x).All I missing := by
  intro ms hm
  rw [get_set hf hn hm]
  split
  · exact hx
  · exact h ms hm

theorem grown_append (target : Group) (w : Assignment → α) (t : Tensor α)
    (bs cs : List Assignment) :
    grown ops target w t (bs ++ cs) = grown ops target w (grown ops target w t bs) cs := by
  simp only [grown, scatter_type]
  exact scatter_append ..

theorem foldl_addHeld {target : Group} {factor : Access} {w : Assignment → α}
    {bs : List Assignment} {I : α → Prop} {s : Store α} (hg : Grows ops s.result.type w bs I)
    (hw : ∀ b ∈ bs, ops.mul s.held (factor.read ops operands b) = w b)
    (hb : ∀ b ∈ bs, target.map b ∈ tuples s.result.shape) (hf : s.result.IsFull)
    (ha : s.result.All I ops.literalZero) :
    bs.foldl (fun s b => (Statement.addHeld target factor).run ops operands b s) s =
        { s with result := grown ops target w s.result bs } ∧
      (grown ops target w s.result bs).All I ops.literalZero := by
  induction bs generalizing s with
  | nil => exact ⟨rfl, ha⟩
  | cons b bs ih =>
    have hi := ha _ (hb b List.mem_cons_self)
    have hs := hg.sound _ hi b List.mem_cons_self
    have he : (Statement.addHeld target factor).run ops operands b s =
        { s with result := grown ops target w s.result [b] } := by
      simp [Statement.run, Store.write, Store.note, hw b List.mem_cons_self, hs,
        grown, scatter, grow]
    rw [List.foldl_cons, he]
    exact ih (hg.mono fun c hc => List.mem_cons_of_mem b hc)
      (fun c hc => hw c (List.mem_cons_of_mem b hc))
      (fun c hc => hb c (List.mem_cons_of_mem b hc)) (hf.set _ _)
      (ha.set hf (hb b List.mem_cons_self) (hg.store _ hi b List.mem_cons_self))

def pairProduct (ops : Arithmetic α) (operands : List (Tensor α)) (left right : Access)
    (b : Assignment) : α :=
  ops.mul (left.read ops operands b) (right.read ops operands b)

def matrixCell (target : Group) (left right : Access) (column : Label) : Block :=
  .seq (.atom (.hold left)) (nest [column] (.atom (.addHeld target right)))

theorem run_matrixCell {target : Group} {left right : Access} {column : Label} {a : Assignment}
    {I : α → Prop} {s : Store α}
    (hg : Grows ops s.result.type (pairProduct ops operands left right)
      (assignments sizes [column] a) I)
    (hl : column ∉ left.labels)
    (hb : ∀ b ∈ assignments sizes [column] a, target.map b ∈ tuples s.result.shape)
    (hf : s.result.IsFull) (ha : s.result.All I ops.literalZero) :
    (matrixCell target left right column).run ops operands sizes a s =
        { s with
          held := left.read ops operands a
          result := grown ops target (pairProduct ops operands left right) s.result
            (assignments sizes [column] a) } ∧
      (grown ops target (pairProduct ops operands left right) s.result
        (assignments sizes [column] a)).All I ops.literalZero := by
  -- The column does not occur in the held factor, so reading it once is as good as reading it anew.
  have hw : ∀ b ∈ assignments sizes [column] a,
      ops.mul (left.read ops operands a) (right.read ops operands b) =
        pairProduct ops operands left right b := by
    intro b hb
    have hlb : left.labels.map b = left.labels.map a := List.map_congr_left fun l hl' =>
      (mem_assignments.mp hb).2 l fun hc => hl (List.mem_singleton.mp hc ▸ hl')
    simp only [pairProduct, Access.read, hlb]
  simp only [matrixCell, Block.run, run_nest]
  exact foldl_addHeld (s := { s with held := left.read ops operands a }) hg hw hb hf ha

theorem foldl_matrixCell {target : Group} {left right : Access} {column : Label}
    {as : List Assignment} {I : α → Prop} {s : Store α}
    (hg : Grows ops s.result.type (pairProduct ops operands left right)
      (as.flatMap (assignments sizes [column])) I) (hl : column ∉ left.labels)
    (hb : ∀ b ∈ as.flatMap (assignments sizes [column]), target.map b ∈ tuples s.result.shape)
    (hf : s.result.IsFull) (ha : s.result.All I ops.literalZero) :
    let final :=
      as.foldl (fun s a => (matrixCell target left right column).run ops operands sizes a s) s
    final.result = grown ops target (pairProduct ops operands left right) s.result
        (as.flatMap (assignments sizes [column])) ∧
      final.failure = s.failure := by
  induction as generalizing s with
  | nil => exact ⟨rfl, rfl⟩
  | cons a as ih =>
    rw [List.flatMap_cons] at hg hb ⊢
    have hm : ∀ b ∈ assignments sizes [column] a,
        b ∈ assignments sizes [column] a ++ as.flatMap (assignments sizes [column]) :=
      fun b hb => List.mem_append_left _ hb
    have ht : ∀ b ∈ as.flatMap (assignments sizes [column]),
        b ∈ assignments sizes [column] a ++ as.flatMap (assignments sizes [column]) :=
      fun b hb => List.mem_append_right _ hb
    obtain ⟨hr, hall⟩ := run_matrixCell (hg.mono hm) hl (fun b h => hb b (hm b h)) hf ha
    have hi := ih (s := (matrixCell target left right column).run ops operands sizes a s)
    rw [hr] at hi
    simp only [grown, scatter_type, scatter_shape] at hi hall
    obtain ⟨hres, hfail⟩ :=
      hi (hg.mono ht) (fun b h => hb b (ht b h)) (scatter_isFull _ _ _ hf _) hall
    simp only [List.foldl_cons, hr, grown_append]
    simp only [grown, scatter_type]
    exact ⟨hres, hfail⟩

end

end Einsum
