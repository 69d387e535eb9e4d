import Einsum.Cost
import Einsum.Proofs.Compilation

namespace Einsum

structure Metered (β : Type) where
  value : β
  operations : Nat

namespace Metered

instance : Monad Metered where
  pure b := ⟨b, 0⟩
  bind x f := ⟨(f x.value).value, x.operations + (f x.value).operations⟩

section

variable {β γ : Type}

theorem value_bind (x : Metered β) (f : β → Metered γ) :
    (x >>= f).value = (f x.value).value := rfl

theorem operations_bind (x : Metered β) (f : β → Metered γ) :
    (x >>= f).operations = x.operations + (f x.value).operations := rfl

theorem value_foldlM {f : β → γ → Metered β} {g : β → γ → β}
    (h : ∀ b c, (f b c).value = g b c) (cs : List γ) (b : β) :
    (cs.foldlM f b).value = cs.foldl g b := by
  induction cs generalizing b with
  | nil => rfl
  | cons c cs ih => rw [List.foldlM_cons, value_bind, ih, h, List.foldl_cons]

theorem operations_foldlM {f : β → γ → Metered β} {n : Nat}
    (h : ∀ b c, (f b c).operations = n) (cs : List γ) (b : β) :
    (cs.foldlM f b).operations = cs.length * n := by
  induction cs generalizing b with
  | nil => exact (Nat.zero_mul n).symm
  | cons c cs ih =>
    rw [List.foldlM_cons, operations_bind, ih, h, List.length_cons, Nat.succ_mul, Nat.add_comm]

end

end Metered

section

variable {α : Type} (ops : Arithmetic α) (operands : List (Tensor α))

namespace Arithmetic

def meteredMul (x y : α) : Metered α := ⟨ops.mul x y, 1⟩

def meteredAdd (x y : α) : Metered α := ⟨ops.add x y, 1⟩

end Arithmetic

def meteredProduct (a : Assignment) : List Access → Metered α
  | [] => pure ops.literalZero
  | x :: xs =>
    xs.foldlM (fun p y => ops.meteredMul p (y.read ops operands a)) (x.read ops operands a)

def Statement.meter (a : Assignment) (s : Store α) : Statement → Metered (Store α)
  | clear => pure { s with accumulator := ops.literalZero }
  | accumulate factors => do
    let value ← meteredProduct ops operands a factors
    let sum ← ops.meteredAdd s.accumulator value
    return { s with accumulator := sum }.note ops sum
  | flush target => pure (s.write ops (target.map a) s.accumulator)
  | assign target factors => do
    let value ← meteredProduct ops operands a factors
    return (s.write ops (target.map a) value).note ops value
  | hold factor => pure { s with held := factor.read ops operands a }
  | addHeld target factor => do
    let value ← ops.meteredMul s.held (factor.read ops operands a)
    let sum ← ops.meteredAdd (s.result.get ops.literalZero (target.map a)) value
    return (s.write ops (target.map a) sum).note ops sum

def Block.meter (sizes : Assignment) : Block → Assignment → Store α → Metered (Store α)
  | atom st, a, s => st.meter ops operands a s
  | seq b c, a, s => b.meter sizes a s >>= c.meter sizes a
  | loop labels b, a, s =>
    (tuples (labels.map sizes)).foldlM (fun s ns => b.meter sizes (a.bind labels ns) s) s

def Kernel.meter (k : Kernel) (labels : Group) : Except Error (Metered (Tensor α)) := do
  k.checkCount operands.length
  let sizes ← (runChecks labels (operands.map Tensor.shape) []
    (prologue k.pattern.inputs)).mapError .report
  let shape ← resultShape sizes k.pattern.output
  let result ← zeros ops (shape.map fun n : Nat => (n : Int)) (operands.map Tensor.type)
  match k.body.fault? (shapeAt operands result) (assignment sizes) [] with
  | some e => throw e
  | none =>
    let store := k.body.meter ops operands (assignment sizes) .start (.start ops result)
    match store.value.failure with
    | some e => throw e
    | none => return ⟨store.value.result, store.operations⟩

end

def Statement.operations : Statement → Nat
  | clear | flush _ | hold _ => 0
  | accumulate factors => factors.length - 1 + 1
  | assign _ factors => factors.length - 1
  | addHeld _ _ => 2

def Block.operations (sizes : Assignment) : Block → Nat
  | atom st => st.operations
  | seq b c => b.operations sizes + c.operations sizes
  | loop labels b => (labels.map sizes).prod * b.operations sizes

section

variable {α : Type} (ops : Arithmetic α) (operands : List (Tensor α))

theorem value_meteredProduct (a : Assignment) (xs : List Access) :
    (meteredProduct ops operands a xs).value = product ops operands a xs := by
  cases xs with
  | nil => rfl
  | cons x xs => exact Metered.value_foldlM (fun _ _ => rfl) xs _

theorem operations_meteredProduct (a : Assignment) (xs : List Access) :
    (meteredProduct ops operands a xs).operations = xs.length - 1 := by
  cases xs with
  | nil => rfl
  | cons x xs =>
    rw [meteredProduct, Metered.operations_foldlM (n := 1) fun _ _ => rfl, Nat.mul_one]
    rfl

theorem Statement.value_meter (st : Statement) (a : Assignment) (s : Store α) :
    (st.meter ops operands a s).value = st.run ops operands a s := by
  cases st with
  | clear | flush | hold | addHeld => rfl
  | accumulate | assign =>
    simp only [meter, Metered.value_bind, value_meteredProduct]
    rfl

theorem Statement.operations_meter (st : Statement) (a : Assignment) (s : Store α) :
    (st.meter ops operands a s).operations = st.operations := by
  cases st with
  | clear | flush | hold | addHeld => rfl
  | accumulate | assign =>
    simp only [meter, Metered.operations_bind, operations_meteredProduct]
    rfl

theorem Block.value_meter (b : Block) (sizes a : Assignment) (s : Store α) :
    (b.meter ops operands sizes a s).value = b.run ops operands sizes a s := by
  induction b generalizing a s with
  | atom st => exact st.value_meter ops operands a s
  | seq b c ihb ihc => rw [meter, Metered.value_bind, ihc, ihb, run]
  | loop labels b ih => exact Metered.value_foldlM (fun s ns => ih _ s) _ s

theorem Block.operations_meter (b : Block) (sizes a : Assignment) (s : Store α) :
    (b.meter ops operands sizes a s).operations = b.operations sizes := by
  induction b generalizing a s with
  | atom st => exact st.operations_meter ops operands a s
  | seq b c ihb ihc => rw [meter, Metered.operations_bind, ihb, ihc, operations]
  | loop labels b ih =>
    rw [meter, Metered.operations_foldlM fun s ns => ih _ s, Tensor.length_tuples, operations]
    rfl

/-- A kernel is called as without the meter, and takes the operations of its body. -/
theorem Kernel.meter_eq {k : Kernel} {labels : Group} {n : Nat}
    (h : ∀ sizes, runChecks labels (operands.map Tensor.shape) [] (prologue k.pattern.inputs) =
      .ok sizes → k.body.operations (assignment sizes) = n) :
    k.meter ops operands labels = (k.call ops labels operands).map fun t => ⟨t, n⟩ := by
  rw [meter, call]
  cases k.checkCount operands.length with
  | error e => rfl
  | ok =>
    cases hr : runChecks labels (operands.map Tensor.shape) [] (prologue k.pattern.inputs) with
    | error r => rfl
    | ok sizes =>
      simp only [Except.mapError, ok_bind]
      cases resultShape sizes k.pattern.output with
      | error e => rfl
      | ok shape =>
        simp only [ok_bind]
        cases zeros ops (shape.map fun n : Nat => (n : Int)) (operands.map Tensor.type) with
        | error e => rfl
        | ok result =>
          simp only [ok_bind, Block.fill, Block.value_meter, Block.operations_meter, h sizes hr]
          cases k.body.fault? (shapeAt operands result) (assignment sizes) [] with
          | some e => rfl
          | none =>
            cases (k.body.run ops operands (assignment sizes) .start
              (.start ops result)).failure <;> rfl

end

section

variable {sizes : Assignment}

theorem operations_nest (ls : Group) (b : Block) :
    (nest ls b).operations sizes = (ls.map sizes).prod * b.operations sizes := by
  induction ls with
  | nil => exact (Nat.one_mul _).symm
  | cons l ls ih =>
    have hl : nest (l :: ls) b = .loop [l] (nest ls b) := rfl
    rw [hl, Block.operations, ih, List.map_singleton, List.prod_singleton, List.map_cons,
      List.prod_cons, Nat.mul_assoc]

theorem operations_loops (flat : Bool) (ls : Group) (b : Block) :
    (loops flat ls b).operations sizes = (ls.map sizes).prod * b.operations sizes := by
  rw [loops]
  split
  · rfl
  · exact operations_nest ls b

theorem operations_reductionBody (s : Subscripts) :
    (reductionBody s).operations sizes =
      s.operationCount (s.output.map sizes).prod (s.summed.map sizes).prod := by
  obtain ⟨flat, hb⟩ := reductionBody_eq s
  have hlen : s.accesses.length = s.inputs.length := by simp [Subscripts.accesses]
  rw [hb, operations_loops, reductionCell, Subscripts.operationCount]
  split
  · simp only [Block.operations, Statement.operations, hlen]
    exact Nat.mul_comm ..
  · simp only [Block.operations, Statement.operations, operations_loops, hlen]
    ring

theorem MatrixProduct.operations_body {s : Subscripts} {left right : Group}
    {row shared column : Label} (h : MatrixProduct s left right row shared column) :
    (nest [row, shared] (matrixCell s.output ⟨0, left⟩ ⟨1, right⟩ column)).operations
      sizes = s.operationCount (s.output.map sizes).prod (s.summed.map sizes).prod := by
  have hout : (s.output.map sizes).prod = sizes row * sizes column := by
    rw [(h.output_perm.map sizes).prod_eq]
    simp
  simp only [operations_nest, matrixCell, Block.operations, Statement.operations,
    Subscripts.operationCount, h.summed_eq, hout, h.inputs]
  simp
  ring

/-- Whichever kind subscripts are lowered to, the loops take one and the same number of
operations. -/
theorem operations_kernelBody {s : Subscripts} {special : Bool} {b : Block}
    (hb : kernelBody s (s.kind special) = .ok b) :
    b.operations sizes = s.operationCount (s.output.map sizes).prod (s.summed.map sizes).prod := by
  rcases kernelBody_cases hb with rfl | ⟨left, right, row, shared, column, hp, rfl⟩
  · exact operations_reductionBody s
  · exact hp.operations_body

theorem loopLabels_reduced {s : Subscripts} {special : Bool} {b : Block}
    (hb : kernelBody s (s.kind special) = .ok b) :
    (b.loopLabels.filter (· ∉ s.output)).Perm s.summed := by
  rcases kernelBody_cases hb with rfl | ⟨left, right, row, shared, column, hp, rfl⟩
  · have hsummed : s.summed.filter (· ∉ s.output) = s.summed :=
      List.filter_eq_self.mpr fun l hl => decide_eq_true (s.mem_summed.mp hl).2
    have hout : s.output.filter (· ∉ s.output) = [] :=
      List.filter_eq_nil_iff.mpr fun l hl hn => of_decide_eq_true hn hl
    rw [loopLabels_reductionBody, List.filter_append, hsummed, hout, List.nil_append]
  · have hs : shared ∉ s.output :=
      (s.mem_summed.mp (hp.summed_eq ▸ List.mem_singleton_self shared)).2
    rw [loopLabels_matrixProduct]
    simp [hp.row_mem, hp.column_mem, hs, hp.summed_eq]

end

end Einsum
