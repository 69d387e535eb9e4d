import Einsum.Proofs.Closed
import Einsum.Proofs.Exact

namespace Einsum

def Error.isArithmetic : Error → Bool
  | .tooLargeForFloat | .integerBounds _ _ | .wordOverflow | .unsupportedOperands _ _ _
  | .notRepeatable _ | .notJoinable _ | .hugeCount _ | .notAddable _ _ => true
  | _ => false

def Scalar.Computed (x : Scalar) : Prop := ∀ e, x.fault? = some e → e.isArithmetic = true

theorem Scalar.computed_of_fault? {x : Scalar} (h : x.fault? = none) : x.Computed := by
  intro e he
  rw [h] at he
  cases he

theorem Scalar.computed_failed {e : Error} (h : e.isArithmetic = true) :
    (Scalar.failed e).Computed := by
  rintro _ ⟨⟩
  exact h

theorem Operator.fault?_typed (op : Operator) (x y : Scalar) : (op.typed x y).fault? = none := by
  rw [Operator.typed]
  split <;> rfl

def Regular (r : Except Error Scalar) : Prop := ∀ e, r = .error e → e.isArithmetic = true

theorem computed_ofResult_map {r : Except Error Scalar} (h : Regular r) {f : Scalar → Scalar}
    (hf : ∀ x, (f x).Computed) : (ofResult (r.map f)).Computed := by
  cases r with
  | ok x => exact hf x
  | error e => exact Scalar.computed_failed (h e rfl)

theorem regular_element (t : IntType) (n : Int) : Regular (t.element n) := by
  intro e he
  rw [IntType.element] at he
  split at he
  · cases he
  · cases he
    split <;> rfl

theorem regular_integerBeside (n : Int) (d : ElemType) : Regular (integerBeside n d) := by
  intro e he
  cases d with
  | bool | object => exact regular_element int64 n e he
  | int t => exact regular_element t n e he
  | float32 =>
    rw [integerBeside] at he
    split at he
    · cases he
      rfl
    · cases he
  | float64 =>
    rw [integerBeside] at he
    split at he
    · cases he
      rfl
    · cases he

theorem regular_ok (x : Scalar) : Regular (.ok x) := by
  intro e he
  cases he

theorem regular_numberBeside? {v : Json} {d : ElemType} {r : Except Error Scalar}
    (h : numberBeside? v d = some r) : Regular r := by
  cases v with
  | bool b => exact Option.some.inj h ▸ regular_ok _
  | int n => exact Option.some.inj h ▸ regular_integerBeside n d
  | float x => exact Option.some.inj h ▸ regular_ok _
  | null => cases h
  | text s => cases h
  | list items => cases h
  | object fields => cases h

theorem computed_repeatText (s : String) (n : Int) (type : String) :
    (repeatText s n type).Computed := by
  rw [repeatText]
  split
  · exact Scalar.computed_of_fault? rfl
  · exact Scalar.computed_failed rfl

theorem Operator.computed_onText (op : Operator) (s : String) (x : Scalar) {e : Error}
    (h : e.isArithmetic = true) : (op.onText s x e).Computed := by
  unfold Operator.onText
  split
  · exact computed_repeatText s _ _
  · exact Scalar.computed_failed rfl
  · exact Scalar.computed_failed h

theorem PlainNumber.isArithmetic_of_toFloat {x : PlainNumber} {e : Error}
    (h : x.toFloat = .error e) :
    e.isArithmetic = true := by
  cases x with
  | integer n =>
    rw [PlainNumber.toFloat] at h
    split at h
    · cases h
      rfl
    · cases h
  | real x => cases h

theorem Operator.computed_onNumbers (op : Operator) (x y : PlainNumber) :
    (op.onNumbers x y).Computed := by
  unfold Operator.onNumbers
  split
  · exact Scalar.computed_of_fault? rfl
  · cases hx : x.toFloat with
    | error e => exact Scalar.computed_failed (PlainNumber.isArithmetic_of_toFloat hx)
    | ok f =>
      cases hy : y.toFloat with
      | error e => exact Scalar.computed_failed (PlainNumber.isArithmetic_of_toFloat hy)
      | ok g => exact Scalar.computed_of_fault? rfl

theorem Operator.computed_onOthers (op : Operator) (v w : Json) : (op.onOthers v w).Computed := by
  unfold Operator.onOthers
  split <;> first
    | exact computed_repeatText _ _ _
    | exact Scalar.computed_failed rfl
    | exact Scalar.computed_of_fault? rfl

theorem Operator.computed_onPlain (op : Operator) (v w : Json) : (op.onPlain v w).Computed := by
  rw [Operator.onPlain]
  split
  · exact op.computed_onNumbers _ _
  · exact op.computed_onOthers v w

theorem Operator.computed_apply (op : Operator) {x y : Scalar} (hx : x.Computed) (hy : y.Computed) :
    (op.apply x y).Computed := by
  have ht (x y : Scalar) : (op.typed x y).Computed :=
    Scalar.computed_of_fault? (op.fault?_typed x y)
  unfold Operator.apply
  split
  · exact hx
  · exact hy
  · exact op.computed_onPlain _ _
  · dsimp only
    split
    next hr => exact computed_ofResult_map (regular_numberBeside? hr) fun z => ht z _
    next => exact op.computed_onText _ _ rfl
    next => exact Scalar.computed_failed rfl
  · dsimp only
    split
    next hr => exact computed_ofResult_map (regular_numberBeside? hr) fun z => ht _ z
    next => exact op.computed_onText _ _ rfl
    next => exact Scalar.computed_failed rfl
  · exact ht _ _

theorem Scalar.fault?_cast {x : Scalar} {d : ElemType} (hd : d ≠ .object) :
    (Scalar.cast d x).fault? = none := by
  cases d with
  | bool | int t | float32 | float64 => rfl
  | object => exact absurd rfl hd

theorem Scalar.closed_computed : Scalar.arithmetic.Closed Scalar.Computed where
  literalZero := Scalar.computed_of_fault? rfl
  zero d := by
    by_cases hd : d = .object
    · subst hd
      exact Scalar.computed_of_fault? rfl
    · exact Scalar.computed_of_fault? (Scalar.fault?_cast hd)
  add _ _ hx hy := Operator.add.computed_apply hx hy
  mul _ _ hx hy := Operator.mul.computed_apply hx hy
  store d x hx := by
    by_cases hd : d = .object
    · subst hd
      exact hx
    · exact Scalar.computed_of_fault? (Scalar.fault?_cast hd)

def Scalar.IsFixed (x : Scalar) : Prop := x.elemType ≠ .object ∨ x = .exact 0

theorem Scalar.IsFixed.fault? {x : Scalar} (h : x.IsFixed) : x.fault? = none := by
  rcases h with h | rfl
  · cases x with
    | failed e => exact absurd rfl h
    | bool | int | float32 | float64 | plain => rfl
  · rfl

theorem Operator.elemType_typed (op : Operator) (x y : Scalar) :
    (op.typed x y).elemType ≠ .object := by
  rw [Operator.typed]
  split <;> simp [Scalar.elemType]

theorem Operator.apply_fixed (op : Operator) {x y : Scalar} (hx : x.elemType ≠ .object)
    (hy : y.elemType ≠ .object) :
    op.apply x y = op.typed x y := by
  cases x with
  | plain v => exact absurd rfl hx
  | failed e => exact absurd rfl hx
  | bool | int | float32 | float64 =>
    cases y with
    | plain v => exact absurd rfl hy
    | failed e => exact absurd rfl hy
    | bool | int | float32 | float64 => rfl

/-- The literal zero takes the type of the element beside it, truth values counting as `int64`. -/
theorem integerBeside_zero {d : ElemType} (hd : d ≠ .object) :
    integerBeside 0 d = .ok (Scalar.zero (if d = .bool then .int int64 else d)) := by
  have hz : Scalar.exceedsFloat64 0 = false := by decide
  cases d with
  | bool => rfl
  | int t => simp [integerBeside, IntType.element_zero, Scalar.zero, Scalar.cast, Scalar.toInt]
  | float32 =>
    simp [integerBeside, hz, Scalar.zero, Scalar.cast, Scalar.asFloat32, Scalar.asFloat64,
      Scalar.toInt]
  | float64 => simp [integerBeside, hz, Scalar.zero, Scalar.cast, Scalar.asFloat64, Scalar.toInt]
  | object => exact absurd rfl hd

theorem Operator.apply_zero_left (op : Operator) {y : Scalar} (hy : y.elemType ≠ .object) :
    op.apply (.exact 0) y =
      op.typed (Scalar.zero (if y.elemType = .bool then .int int64 else y.elemType)) y := by
  have hi := integerBeside_zero hy
  cases y with
  | plain v => exact absurd rfl hy
  | failed e => exact absurd rfl hy
  | bool | int | float32 | float64 =>
    simp only [Operator.apply, numberBeside?, hi, Except.map, ofResult]

theorem Operator.apply_zero_right (op : Operator) {x : Scalar} (hx : x.elemType ≠ .object) :
    op.apply x (.exact 0) =
      op.typed x (Scalar.zero (if x.elemType = .bool then .int int64 else x.elemType)) := by
  have hi := integerBeside_zero hx
  cases x with
  | plain v => exact absurd rfl hx
  | failed e => exact absurd rfl hx
  | bool | int | float32 | float64 =>
    simp only [Operator.apply, numberBeside?, hi, Except.map, ofResult]

theorem Operator.isFixed_apply (op : Operator) {x y : Scalar} (hx : x.IsFixed) (hy : y.IsFixed) :
    (op.apply x y).IsFixed := by
  rcases hx with hx | rfl <;> rcases hy with hy | rfl
  · rw [op.apply_fixed hx hy]
    exact .inl (op.elemType_typed x y)
  · rw [op.apply_zero_right hx]
    exact .inl (op.elemType_typed _ _)
  · rw [op.apply_zero_left hy]
    exact .inl (op.elemType_typed _ _)
  · cases op <;> exact .inr rfl

theorem Scalar.isFixed_cast (d : ElemType) {x : Scalar} (hx : x.IsFixed) :
    (Scalar.cast d x).IsFixed := by
  cases d with
  | object => exact hx
  | bool | int t | float32 | float64 => exact .inl nofun

theorem Scalar.closed_fixed : Scalar.arithmetic.Closed Scalar.IsFixed where
  literalZero := .inr rfl
  zero d := Scalar.isFixed_cast d (.inr rfl)
  add _ _ hx hy := Operator.add.isFixed_apply hx hy
  mul _ _ hx hy := Operator.mul.isFixed_apply hx hy
  store d _ hx := Scalar.isFixed_cast d hx

inductive Scalar.IsElement : ElemType → Scalar → Prop
  | bool (b : Bool) : IsElement .bool (.bool b)
  | int (t : IntType) (n : Int) (h : t.holds n = true) : IsElement (.int t) (.int t n)
  | float32 (x : Float32) : IsElement .float32 (.float32 x)
  | float64 (x : Float) : IsElement .float64 (.float64 x)
  | object {x : Scalar} (h : x.fault? = none) : IsElement .object x

structure Tensor.IsArray (t : Tensor Scalar) : Prop where
  full : t.IsFull
  elements : t.Each (Scalar.IsElement t.type)

theorem Scalar.IsElement.fault? {d : ElemType} {x : Scalar} (h : x.IsElement d) :
    x.fault? = none := by
  cases h with
  | object h => exact h
  | bool | int | float32 | float64 => rfl

theorem Scalar.IsElement.elemType {d : ElemType} {x : Scalar} (h : x.IsElement d)
    (hd : d ≠ .object) :
    x.elemType = d := by
  cases h with
  | object => exact absurd rfl hd
  | bool | int | float32 | float64 => rfl

end Einsum
