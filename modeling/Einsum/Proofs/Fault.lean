import Einsum.Proofs.Closed

namespace Einsum

variable {α : Type}

def Arithmetic.lenient (ops : Arithmetic α) : Arithmetic α := { ops with fault? := fun _ => none }

def Store.forgiven (s : Store α) : Store α := { s with failure := none }

section

variable (ops : Arithmetic α) (operands : List (Tensor α))

theorem Statement.run_lenient (st : Statement) (a : Assignment) (s : Store α) :
    (st.run ops operands a s).forgiven = st.run ops.lenient operands a s.forgiven := by
  cases st <;> rfl

/-- What a nest computes does not depend on what is found wrong on the way. -/
theorem Block.run_lenient (b : Block) (sizes a : Assignment) (s : Store α) :
    (b.run ops operands sizes a s).forgiven = b.run ops.lenient operands sizes a s.forgiven := by
  induction b generalizing a s with
  | atom st => exact st.run_lenient ops operands a s
  | seq b c ihb ihc => rw [Block.run, ihc, ihb, Block.run]
  | loop labels b ih =>
    rw [Block.run, Block.run]
    generalize tuples (labels.map sizes) = ns
    induction ns generalizing s with
    | nil => rfl
    | cons n ns ihn => rw [List.foldl_cons, ihn, ih, List.foldl_cons]

end

structure Arithmetic.Tells (ops : Arithmetic α) : Prop where
  literalZero : ops.fault? ops.literalZero = none
  store : ∀ d x, ops.fault? x = none → ops.fault? (ops.store d x) = none

def Store.Clean (ops : Arithmetic α) (s : Store α) : Prop :=
  s.failure = none → ops.fault? s.accumulator = none ∧
    s.result.Each fun x => ops.fault? x = none

section

variable {ops : Arithmetic α} (ht : ops.Tells) (operands : List (Tensor α))

include ht

theorem Statement.run_clean (st : Statement) (a : Assignment) {s : Store α} (h : s.Clean ops) :
    (st.run ops operands a s).Clean ops := by
  intro hf
  cases st with
  | clear => exact ⟨ht.literalZero, (h hf).2⟩
  | hold factor => exact h hf
  | flush target =>
    obtain ⟨ha, hr⟩ := h hf
    exact ⟨ha, hr.set _ (ht.store _ _ ha)⟩
  | accumulate factors =>
    obtain ⟨hs, hsum⟩ := Option.or_eq_none_iff.mp hf
    exact ⟨hsum, (h hs).2⟩
  | assign target factors =>
    obtain ⟨hs, hp⟩ := Option.or_eq_none_iff.mp hf
    obtain ⟨ha, hr⟩ := h hs
    exact ⟨ha, hr.set _ (ht.store _ _ hp)⟩
  | addHeld target factor =>
    obtain ⟨hs, hsum⟩ := Option.or_eq_none_iff.mp hf
    obtain ⟨ha, hr⟩ := h hs
    exact ⟨ha, hr.set _ (ht.store _ _ hsum)⟩

theorem Block.run_clean (b : Block) (sizes a : Assignment) {s : Store α} (h : s.Clean ops) :
    (b.run ops operands sizes a s).Clean ops :=
  b.run_invariant (fun st a _ h => st.run_clean ht operands a h) sizes a h

end

theorem Block.run_stored {ops : Arithmetic α} {Q : α → Prop} (operands : List (Tensor α))
    (b : Block) (sizes a : Assignment) {s : Store α} (hQ : ∀ x, Q (ops.store s.result.type x))
    (h : s.result.Each Q) :
    (b.run ops operands sizes a s).result.Each Q := by
  have hI : ∀ (st : Statement) (a : Assignment) (u : Store α),
      u.result.type = s.result.type ∧ u.result.Each Q →
        (st.run ops operands a u).result.type = s.result.type ∧
          (st.run ops operands a u).result.Each Q := by
    rintro st a u ⟨ht, hu⟩
    refine ⟨(st.run_alike ops operands a u).type.trans ht, ?_⟩
    cases st with
    | clear | accumulate | hold => exact hu
    | flush | assign | addHeld => exact hu.set _ (ht ▸ hQ _)
  exact (b.run_invariant (I := fun u => u.result.type = s.result.type ∧ u.result.Each Q) hI sizes
    a ⟨rfl, h⟩).2

end Einsum
