import Einsum.Tensor.Basic
import Mathlib

namespace Einsum

namespace IntType

variable (t : IntType)

theorem wrap_wrap (n : Int) : t.wrap (t.wrap n) = t.wrap n := by
  unfold wrap
  split
  · exact Int.bmod_bmod
  · exact Int.emod_emod_of_dvd n dvd_rfl

theorem wrap_add (m n : Int) : t.wrap (t.wrap m + t.wrap n) = t.wrap (m + n) := by
  unfold wrap
  split
  · rw [Int.bmod_add_bmod, Int.add_bmod_bmod]
  · rw [← Int.add_emod]

theorem wrap_add_left (m n : Int) : t.wrap (t.wrap m + n) = t.wrap (m + n) := by
  rw [← wrap_add, wrap_wrap, wrap_add]

theorem wrap_mul (m n : Int) : t.wrap (t.wrap m * t.wrap n) = t.wrap (m * n) := by
  unfold wrap
  split
  · rw [Int.bmod_mul_bmod, Int.mul_bmod_bmod]
  · rw [← Int.mul_emod]

theorem wrap_of_holds {n : Int} (h : t.holds n = true) : t.wrap n = n := by
  obtain ⟨s, w⟩ := t
  simp only [holds, Bool.and_eq_true, decide_eq_true_eq] at h
  cases s with
  | true =>
    cases w <;> simp [low, high, wrap, twoPow, Width.bits] at h ⊢ <;>
      exact Int.bmod_eq_of_le (by omega) (by omega)
  | false => cases w <;> simp [low, high, wrap, twoPow, Width.bits] at h ⊢ <;> omega

theorem holds_wrap (n : Int) : t.holds (t.wrap n) = true := by
  obtain ⟨s, w⟩ := t
  simp only [holds, Bool.and_eq_true, decide_eq_true_eq]
  cases s with
  | true => cases w <;> simp [low, high, wrap, twoPow, Width.bits, Int.bmod] <;> grind
  | false => cases w <;> simp [low, high, wrap, twoPow, Width.bits] <;> omega

theorem holds_zero : t.holds 0 = true := by
  obtain ⟨s, w⟩ := t
  cases s <;> cases w <;> decide

@[simp]
theorem wrap_zero : t.wrap 0 = 0 := t.wrap_of_holds t.holds_zero

theorem element_zero : t.element 0 = .ok (.int t 0) := by simp [element, holds_zero]

@[simp]
theorem promote_self : t.promote t = .int t := by simp [promote, Width.max]

end IntType

/-- The element that a whole number comes to in a type: the number itself, its remainder modulo two
to the width, or whether it is not zero. -/
def ElemType.element (d : ElemType) (n : Int) : Scalar :=
  match d with
  | .bool => .bool (n ≠ 0)
  | .int t => .int t (t.wrap n)
  | _ => .exact n

def ElemType.IsExact : ElemType → Prop
  | .bool | .int _ | .object => True
  | .float32 | .float64 => False

def ElemType.Admits (d : ElemType) (n : Int) : Prop := d = .bool → 0 ≤ n

inductive Scalar.HasType : ElemType → Scalar → Prop
  | bool (b : Bool) : HasType .bool (.bool b)
  | int (t : IntType) (n : Int) (h : t.holds n = true) : HasType (.int t) (.int t n)
  | exact (n : Int) : HasType .object (.exact n)

namespace ElemType

variable {d : ElemType} {m n : Int}

theorem element_toInt {x : Scalar} (h : x.HasType d) : d.element x.toInt = x := by
  cases h with
  | bool b => cases b <;> rfl
  | int t n h => rw [element, Scalar.toInt, IntType.wrap_of_holds _ h]
  | exact n => rfl

theorem hasType_element (h : d.IsExact) (n : Int) : (d.element n).HasType d := by
  cases d with
  | bool => exact .bool _
  | int t => exact .int t _ (t.holds_wrap n)
  | object => exact .exact n
  | float32 | float64 => exact h.elim

theorem admits_toInt {x : Scalar} (h : x.HasType d) : d.Admits x.toInt := by
  rintro rfl
  cases h with
  | bool b => cases b <;> decide

theorem Admits.add (hm : d.Admits m) (hn : d.Admits n) : d.Admits (m + n) :=
  fun h => add_nonneg (hm h) (hn h)

theorem fault?_element : (d.element n).fault? = none := by cases d <;> rfl

theorem zero_eq_element (h : d.IsExact) : Scalar.zero d = d.element 0 := by
  cases d with
  | bool | object => rfl
  | int t => simp [Scalar.zero, Scalar.cast, Scalar.toInt, element]
  | float32 | float64 => exact h.elim

theorem cast_element (h : d.IsExact) : Scalar.cast d (d.element n) = d.element n := by
  cases d with
  | bool => simp [Scalar.cast, element, Scalar.isZero]
  | int t => simp [Scalar.cast, element, Scalar.toInt, IntType.wrap_wrap]
  | object => rfl
  | float32 | float64 => exact h.elim

theorem mul_element (h : d.IsExact) :
    Scalar.mul (d.element m) (d.element n) = d.element (m * n) := by
  cases d with
  | bool =>
    simp [Scalar.mul, element, Operator.apply, Operator.typed, Scalar.elemType, promote,
      Operator.onBool, Scalar.isZero]
  | int t =>
    simp [Scalar.mul, element, Operator.apply, Operator.typed, Scalar.elemType, promote,
      Operator.onInt, Scalar.toInt, IntType.wrap_mul]
  | object => rfl
  | float32 | float64 => exact h.elim

theorem cast_add_element (h : d.IsExact) (hm : d.Admits m) (hn : d.Admits n) :
    Scalar.cast d (Scalar.add (d.element m) (d.element n)) = d.element (m + n) := by
  cases d with
  | bool =>
    have hz : m + n = 0 ↔ m = 0 ∧ n = 0 := by
      have := hm rfl
      have := hn rfl
      omega
    simp [Scalar.add, Scalar.cast, element, Operator.apply, Operator.typed, Scalar.elemType,
      promote, Operator.onBool, Scalar.isZero, hz]
  | int t =>
    simp [Scalar.add, Scalar.cast, element, Operator.apply, Operator.typed, Scalar.elemType,
      promote, Operator.onInt, Scalar.toInt, IntType.wrap_add, IntType.wrap_wrap]
  | object => rfl
  | float32 | float64 => exact h.elim

theorem fault?_add_element (h : d.IsExact) :
    (Scalar.add (d.element m) (d.element n)).fault? = none := by
  cases d with
  | bool | int t =>
    simp [Scalar.add, element, Operator.apply, Operator.typed, Scalar.elemType,
      promote, Scalar.fault?]
  | object => rfl
  | float32 | float64 => exact h.elim

/-- What an accumulator holds after some numbers: the literal zero before the first, then their sum
in the type of the numbers. Truth values are counted. -/
def accumulator (d : ElemType) (ns : List Int) : Scalar :=
  match d with
  | .bool => if ns = [] then .exact 0 else .int int64 (int64.wrap (ns.countP (· ≠ 0)))
  | .int t => if ns = [] then .exact 0 else .int t (t.wrap ns.sum)
  | _ => .exact ns.sum

theorem add_accumulator (h : d.IsExact) (ns : List Int) :
    Scalar.add (d.accumulator ns) (d.element n) = d.accumulator (ns ++ [n]) := by
  cases d with
  | bool =>
    have hc : Scalar.ofBool (!decide (n = 0)) = if n = 0 then 0 else 1 := by
      by_cases hn : n = 0 <;> simp [hn, Scalar.ofBool]
    by_cases hs : ns = []
    · subst ns
      simp [Scalar.add, accumulator, element, Operator.apply, numberBeside?, integerBeside,
        IntType.element_zero, ofResult, Except.map, Operator.typed, Scalar.elemType, promote,
        Operator.onInt, Scalar.toInt, hc]
    · simp [Scalar.add, accumulator, element, Operator.apply, Operator.typed, Scalar.elemType,
        promote, Operator.onInt, Scalar.toInt, List.countP_append, hs, hc, IntType.wrap_add_left]
  | int t =>
    by_cases hs : ns = []
    · subst ns
      simp [Scalar.add, accumulator, element, Operator.apply, numberBeside?, integerBeside,
        IntType.element_zero, ofResult, Except.map, Operator.typed, Scalar.elemType, promote,
        Operator.onInt, Scalar.toInt, IntType.wrap_wrap]
    · simp [Scalar.add, accumulator, element, Operator.apply, Operator.typed, Scalar.elemType,
        promote, Operator.onInt, Scalar.toInt, hs, IntType.wrap_add]
  | object =>
    have hs : (ns ++ [n]).sum = ns.sum + n := by simp
    simp only [accumulator, hs]
    rfl
  | float32 | float64 => exact h.elim

theorem foldl_add_element (h : d.IsExact) (ms ns : List Int) :
    ns.foldl (fun x n => Scalar.add x (d.element n)) (d.accumulator ms) =
      d.accumulator (ms ++ ns) := by
  induction ns generalizing ms with
  | nil => rw [List.append_nil, List.foldl_nil]
  | cons n ns ih =>
    rw [List.foldl_cons, add_accumulator h, ih, List.append_assoc, List.singleton_append]

theorem accumulator_nil (d : ElemType) : d.accumulator [] = .exact 0 := by cases d <;> rfl

theorem fault?_accumulator (d : ElemType) (ns : List Int) : (d.accumulator ns).fault? = none := by
  cases d with
  | bool | int t => by_cases hs : ns = [] <;> simp [accumulator, hs, Scalar.fault?]
  | float32 | float64 | object => rfl

theorem wrap_count_eq_zero {n : Nat} (h : n < 2 ^ 64) : int64.wrap n = 0 ↔ n = 0 := by
  simp only [IntType.wrap, int64, twoPow, Width.bits, if_true]
  rw [← Int.dvd_iff_bmod_eq_zero]
  norm_num at h ⊢
  omega

theorem countP_eq_zero_iff {ns : List Int} (h : ∀ n ∈ ns, 0 ≤ n) :
    ns.countP (· ≠ 0) = 0 ↔ ns.sum = 0 := by
  rw [List.countP_eq_zero]
  induction ns with
  | nil => simp
  | cons n ns ih =>
    have hn := h n List.mem_cons_self
    have hs : ∀ m ∈ ns, 0 ≤ m := fun m hm => h m (List.mem_cons_of_mem n hm)
    have hsum := List.sum_nonneg hs
    rw [List.forall_mem_cons, ih hs, List.sum_cons, decide_eq_true_eq, not_not]
    omega

theorem cast_accumulator_bool {ns : List Int} (hs : ns ≠ []) :
    Scalar.cast .bool (accumulator .bool ns) = .bool (int64.wrap (ns.countP (· ≠ 0)) ≠ 0) := by
  simp [accumulator, hs, Scalar.cast, Scalar.isZero]

/-- Storing an accumulator gives the sum, as long as truth values are not too many to be counted. -/
theorem cast_accumulator (h : d.IsExact) {ns : List Int} (hn : ∀ n ∈ ns, d.Admits n)
    (hl : d = .bool → ns.length < 2 ^ 64) :
    Scalar.cast d (d.accumulator ns) = d.element ns.sum := by
  cases d with
  | bool =>
    by_cases hs : ns = []
    · subst ns
      rfl
    · have hc : ns.countP (· ≠ 0) < 2 ^ 64 := lt_of_le_of_lt List.countP_le_length (hl rfl)
      have hw := (wrap_count_eq_zero hc).trans (countP_eq_zero_iff fun n hm => hn n hm rfl)
      simp only [cast_accumulator_bool hs, element, Ne, hw]
  | int t =>
    by_cases hs : ns = []
    · subst ns
      simp [accumulator, Scalar.cast, Scalar.toInt, element]
    · simp [accumulator, hs, Scalar.cast, Scalar.toInt, element, IntType.wrap_wrap]
  | object => rfl
  | float32 | float64 => exact h.elim

theorem promote_self (d : ElemType) : d.promote d = d := by
  cases d with
  | int t => simp [promote]
  | bool | float32 | float64 | object => rfl

theorem greatest_replicate (k : Nat) : greatest (List.replicate (k + 1) d) = d := by
  induction k with
  | zero =>
    have hb : index .bool = 0 := by decide
    simp [greatest, hb]
  | succ k ih => simp [List.replicate_succ (n := k + 1), greatest, ih]

theorem common_replicate (d : ElemType) (k : Nat) : common (List.replicate (k + 1) d) = d := by
  have hf (j : Nat) : (List.replicate j d).foldl promote d = d := by
    induction j with
    | zero => rfl
    | succ j ih => rw [List.replicate_succ, List.foldl_cons, promote_self, ih]
  have hc : common (List.replicate (k + 1) d) =
      ((List.replicate (k + 1) d).map d.promote).foldl promote d := by
    rw [List.replicate_succ, common, ← List.replicate_succ, greatest_replicate]
    simp
  rw [hc, List.map_replicate, promote_self, hf]

end ElemType

end Einsum
