import Einsum.Tensor.Operator

/-!
Arrays in row-major order, over elements of any kind, and the arithmetic that kernels need of them.
-/

namespace Einsum

abbrev Shape := List Nat

def Shape.size (s : Shape) : Nat := s.foldr (· * ·) 1

/-- The place of an element in row-major order, the elements of `start` rows being passed. -/
def offsetFrom (start : Nat) : Shape → List Nat → Nat
  | n :: ns, i :: is => offsetFrom (start * n + i) ns is
  | _, _ => start

def offset (s : Shape) (index : List Nat) : Nat := offsetFrom 0 s index

structure Tensor (α : Type) where
  type : ElemType
  shape : Shape
  data : Array α

/-- What a kernel does with elements. The literal zero starts a sum, before the type of its terms is
known; storing turns an element into one of the array's type. -/
structure Arithmetic (α : Type) where
  literalZero : α
  zero : ElemType → α
  add : α → α → α
  mul : α → α → α
  store : ElemType → α → α
  /-- Why a sum or a product could not be computed, if it could not. -/
  fault? : α → Option Error := fun _ => none

def Scalar.arithmetic : Arithmetic Scalar where
  literalZero := .exact 0
  zero := Scalar.zero
  add := Scalar.add
  mul := Scalar.mul
  store := Scalar.cast
  fault? := Scalar.fault?

namespace Tensor

variable {α : Type}

def fill (type : ElemType) (shape : Shape) (a : α) : Tensor α :=
  ⟨type, shape, Array.replicate shape.size a⟩

def get (t : Tensor α) (missing : α) (index : List Nat) : α :=
  t.data.getD (offset t.shape index) missing

def set (t : Tensor α) (index : List Nat) (a : α) : Tensor α :=
  { t with data := t.data.setIfInBounds (offset t.shape index) a }

def rank (t : Tensor α) : Nat := t.shape.length

end Tensor

/-- Arrays have at most this many axes. -/
def maxAxes : Nat := 64

/-- The number of bytes that sizes amount to, from `bytes` for one element on. It is a signed word,
as sizes are. Empty axes do not count. -/
def byteTotal : Nat → List Int → Except Error Nat
  | bytes, [] => .ok bytes
  | bytes, n :: ns =>
    if n = 0 then byteTotal bytes ns
    else if n < 0 then .error .negativeSize
    else if isWord (bytes * n) then byteTotal (bytes * n.toNat) ns
    else .error .arrayTooBig

def shapeOf (type : ElemType) (sizes : List Int) : Except Error Shape := do
  if maxAxes < sizes.length then throw (.tooManyAxes maxAxes sizes.length)
  if !sizes.all isWord then throw .sizeTooLarge
  let _ ← byteTotal type.byteCount sizes
  return sizes.map Int.toNat

/-- An array of zeros of the type that operands of given types combine to. -/
def zeros {α : Type} (ops : Arithmetic α) (sizes : List Int) (types : List ElemType) :
    Except Error (Tensor α) := do
  let type := ElemType.common types
  return .fill type (← shapeOf type sizes) (ops.zero type)

end Einsum
