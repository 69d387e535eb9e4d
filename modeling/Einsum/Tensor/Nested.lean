import Einsum.Json.Integer
import Einsum.Tensor.Basic
import Einsum.Text.Real

/-!
Arrays from nested lists and back. The type is the one that all elements combine to. Texts can be
elements of arrays of objects only: an array of texts would have a type that is none of the element
types, and is refused.
-/

namespace Einsum

def uint64 : IntType := ⟨false, .w64⟩

/-- The type of an integer: the first of `int64`, `uint64` that holds it, or else exact. -/
def integerType (n : Int) : ElemType :=
  if int64.holds n then .int int64 else if uint64.holds n then .int uint64 else .object

def leafType? : Json → Option ElemType
  | .bool _ => some .bool
  | .int n => some (integerType n)
  | .float _ => some .float64
  | .text _ => none
  | _ => some .object

def text? : Json → Option String
  | .text s => some s
  | _ => none

def listItems? : Json → Option (List Json)
  | .list items => some items
  | _ => none

/-- The length of the lists that make up one level, if they are lists of one length. -/
def levelLength? : List Json → Option Nat
  | [] => none
  | v :: vs =>
    match listItems? v with
    | none => none
    | some items =>
      if vs.all fun w => (listItems? w).any (·.length = items.length) then some items.length
      else none

/-- The lengths of the levels from the outermost on, as far as each is even, and the values
below. -/
def levels : Nat → List Json → Shape × List Json
  | 0, vs => ([], vs)
  | fuel + 1, vs =>
    match levelLength? vs with
    | none => ([], vs)
    | some n =>
      let (shape, leaves) := levels fuel (vs.flatMap fun v => (listItems? v).getD [])
      (n :: shape, leaves)

def ElemType.combined : List ElemType → ElemType
  | [] => float64
  | t :: ts => ts.foldl promote t

def leavesType (leaves : List Json) : Except Error ElemType :=
  let type := ElemType.combined (leaves.filterMap leafType?)
  match leaves.findSome? text? with
  | some s => if type = .object then .ok type else .error (.notAType (Scalar.textType s))
  | none => .ok type

def Tensor.ofNested (v : Json) : Except Error (Tensor Scalar) :=
  let (shape, leaves) := levels maxAxes [v]
  if leaves.any fun v => (listItems? v).isSome then
    .error (if shape.length = maxAxes then .nestedTooDeep maxAxes else .inhomogeneous shape)
  else
    (leavesType leaves).map fun type =>
      ⟨type, shape, (leaves.map fun v => Scalar.cast type (.plain v)).toArray⟩

/-- A value as a number of double precision; null stands for what is no number. -/
def Json.toReal : Json → Except Error Float
  | .null => .ok (.ofBits 0x7ff8000000000000)
  | .bool b => .ok (Scalar.toFloat64 (Scalar.ofBool b))
  | .int n => if Scalar.exceedsFloat64 n then .error .tooLargeForFloat else .ok (Scalar.toFloat64 n)
  | .float x => .ok x
  | .text s =>
    match Text.readReal s with
    | some word => .ok (.ofBits (.ofNat word))
    | none => .error (.real s)
  | v => .error (.notReal v.typeName)

def Scalar.ofValue (type : ElemType) (v : Json) : Except Error Scalar :=
  match type with
  | .int t => do t.element (← v.toInteger)
  | .float32 | .float64 => do return cast type (.float64 (← v.toReal))
  | .bool | .object => .ok (cast type (.plain v))

/-- The array of a given type that nested lists stand for; an array of objects may hold lists. -/
def Tensor.ofNestedAs (type : ElemType) (v : Json) : Except Error (Tensor Scalar) := do
  let (shape, leaves) := levels maxAxes [v]
  if type ≠ .object && leaves.any fun v => (listItems? v).isSome then
    throw (if shape.length = maxAxes then .nestedTooDeep maxAxes else .inhomogeneous shape)
  return ⟨type, shape, (← leaves.mapM (Scalar.ofValue type)).toArray⟩

def sizeOfValue : Json → Except Error Int
  | .int n => .ok n
  | .bool _ => .error .integerRequired
  | v => .error (.notAnIndex v.typeName)

def valueSizes : Json → Except Error (List Int)
  | .list items => items.mapM sizeOfValue
  | .text s => s.toList.mapM fun c => sizeOfValue (.text (String.singleton c))
  | v => .error (.notIterable v.typeName)

/-- The shape for a number of elements; one size may be negative, and is then found out. -/
def inferShape (count : Nat) (sizes : List Int) : Except Error Shape :=
  let known := Shape.size ((sizes.filter (0 ≤ ·)).map Int.toNat)
  match sizes.filter (· < 0) with
  | [] => if known = count then .ok (sizes.map Int.toNat) else .error (.reshape count sizes)
  | [_] =>
    if known = 0 || count % known ≠ 0 then .error (.reshape count sizes)
    else .ok (sizes.map fun n => if n < 0 then count / known else n.toNat)
  | _ => .error .unknownSizes

def Tensor.reshape (t : Tensor Scalar) (sizes : List Int) : Except Error (Tensor Scalar) := do
  return { t with shape := ← inferShape t.data.size sizes }

end Einsum
