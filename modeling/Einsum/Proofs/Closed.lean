import Einsum.Proofs.Loop

namespace Einsum

variable {α : Type}

structure Arithmetic.Closed (ops : Arithmetic α) (P : α → Prop) : Prop where
  literalZero : P ops.literalZero
  zero : ∀ d, P (ops.zero d)
  add : ∀ x y, P x → P y → P (ops.add x y)
  mul : ∀ x y, P x → P y → P (ops.mul x y)
  store : ∀ d x, P x → P (ops.store d x)

/-- What every statement keeps, a nest keeps. -/
theorem Block.run_invariant {ops : Arithmetic α} {operands : List (Tensor α)}
    {I : Store α → Prop} (hI : ∀ (st : Statement) a s, I s → I (st.run ops operands a s))
    (b : Block) (sizes a : Assignment) {s : Store α} (h : I s) :
    I (b.run ops operands sizes a s) := by
  induction b generalizing a s with
  | atom st => exact hI st a s h
  | seq b c ihb ihc => exact ihc a (ihb a h)
  | loop labels b ih =>
    rw [Block.run]
    exact List.foldlRecOn _ _ h fun s hs ns _ => ih _ hs

def Tensor.Each (P : α → Prop) (t : Tensor α) : Prop := ∀ x ∈ t.data.toList, P x

theorem Tensor.Each.get {P : α → Prop} {t : Tensor α} (h : t.Each P) {missing : α}
    (hm : P missing) (ns : List Nat) :
    P (t.get missing ns) := by
  rw [Tensor.get, Array.getD_eq_getD_getElem?]
  cases hx : t.data[offset t.shape ns]? with
  | none => exact hm
  | some x => exact h x (Array.mem_toList_iff.mpr (Array.mem_of_getElem? hx))

theorem Tensor.Each.set {P : α → Prop} {t : Tensor α} (h : t.Each P) (ns : List Nat) {x : α}
    (hx : P x) :
    (t.set ns x).Each P := by
  intro y hy
  have hm : y ∈ t.data.setIfInBounds (offset t.shape ns) x := Array.mem_toList_iff.mp hy
  rcases Array.mem_or_eq_of_mem_setIfInBounds hm with hm | rfl
  · exact h y (Array.mem_toList_iff.mpr hm)
  · exact hx

theorem Tensor.each_fill {P : α → Prop} (d : ElemType) (shape : Shape) {x : α} (hx : P x) :
    (Tensor.fill d shape x).Each P := by
  intro y hy
  rw [Tensor.fill, Array.toList_replicate] at hy
  exact (List.mem_replicate.mp hy).2 ▸ hx

structure Store.Each (ops : Arithmetic α) (P : α → Prop) (s : Store α) : Prop where
  accumulator : P s.accumulator
  held : P s.held
  result : s.result.Each P
  failure : ∀ e, s.failure = some e → ∃ x, P x ∧ ops.fault? x = some e

section

variable {ops : Arithmetic α} {P : α → Prop} {operands : List (Tensor α)} (hc : ops.Closed P)
  (ho : ∀ t ∈ operands, t.Each P)

include hc ho

theorem Access.read_closed (a : Assignment) (x : Access) : P (x.read ops operands a) := by
  rw [Access.read]
  split
  next t ht => exact (ho t (List.mem_of_getElem? ht)).get hc.literalZero _
  next => exact hc.literalZero

theorem product_closed (a : Assignment) (factors : List Access) :
    P (product ops operands a factors) := by
  cases factors with
  | nil => exact hc.literalZero
  | cons x xs =>
    have hx := x.read_closed hc ho a
    rw [product]
    generalize x.read ops operands a = p at hx
    induction xs generalizing p with
    | nil => exact hx
    | cons y ys ih => exact ih _ (hc.mul _ _ hx (y.read_closed hc ho a))

omit hc ho in
theorem Store.Each.note {s : Store α} (h : s.Each ops P) {x : α} (hx : P x) :
    (s.note ops x).Each ops P := by
  refine ⟨h.accumulator, h.held, h.result, fun e he => ?_⟩
  rcases Option.or_eq_some_iff.mp he with hs | ⟨-, hf⟩
  · exact h.failure e hs
  · exact ⟨x, hx, hf⟩

omit ho in
theorem Store.Each.write {s : Store α} (h : s.Each ops P) (ns : List Nat) {x : α} (hx : P x) :
    (s.write ops ns x).Each ops P :=
  ⟨h.accumulator, h.held, h.result.set ns (hc.store _ x hx), h.failure⟩

theorem Statement.run_closed (st : Statement) (a : Assignment) {s : Store α} (h : s.Each ops P) :
    (st.run ops operands a s).Each ops P := by
  cases st with
  | clear => exact ⟨hc.literalZero, h.held, h.result, h.failure⟩
  | accumulate factors =>
    have hsum := hc.add _ _ h.accumulator (product_closed hc ho a factors)
    have hs : Store.Each ops P
        { s with accumulator := ops.add s.accumulator (product ops operands a factors) } :=
      ⟨hsum, h.held, h.result, h.failure⟩
    exact hs.note hsum
  | flush target => exact h.write hc _ h.accumulator
  | assign target factors =>
    have hp := product_closed hc ho a factors
    exact (h.write hc _ hp).note hp
  | hold factor => exact ⟨h.accumulator, factor.read_closed hc ho a, h.result, h.failure⟩
  | addHeld target factor =>
    have hsum := hc.add _ _ (h.result.get hc.literalZero (target.map a))
      (hc.mul _ _ h.held (factor.read_closed hc ho a))
    exact (h.write hc _ hsum).note hsum

theorem Block.run_closed (b : Block) (sizes a : Assignment) {s : Store α} (h : s.Each ops P) :
    (b.run ops operands sizes a s).Each ops P :=
  b.run_invariant (fun st a _ h => st.run_closed hc ho a h) sizes a h

end

section

variable (ops : Arithmetic α) (operands : List (Tensor α))

structure Tensor.Alike (t u : Tensor α) : Prop where
  type : t.type = u.type
  shape : t.shape = u.shape
  size : t.data.size = u.data.size

theorem Tensor.Alike.isFull {t u : Tensor α} (h : t.Alike u) (hu : u.IsFull) : t.IsFull := by
  rw [Tensor.IsFull, h.size, h.shape]
  exact hu

theorem Statement.run_alike (st : Statement) (a : Assignment) (s : Store α) :
    (st.run ops operands a s).result.Alike s.result := by
  cases st with
  | clear | accumulate | hold => exact ⟨rfl, rfl, rfl⟩
  | flush | assign | addHeld => exact ⟨rfl, rfl, Array.size_setIfInBounds⟩

theorem Block.run_alike (b : Block) (sizes a : Assignment) (s : Store α) :
    (b.run ops operands sizes a s).result.Alike s.result := by
  refine b.run_invariant (I := fun u => u.result.Alike s.result) (fun st a u h => ?_) sizes a
    ⟨rfl, rfl, rfl⟩
  have hu := st.run_alike ops operands a u
  exact ⟨hu.type.trans h.type, hu.shape.trans h.shape, hu.size.trans h.size⟩

end

end Einsum
