import Einsum.Tensor.Scalar

/-!
Sums and products of elements. Integers of a fixed width wrap around, truth values add as `or` and
multiply as `and`. A plain number takes the type of the element it is combined with; two plain
values combine as they are.
-/

namespace Einsum

inductive Operator where
  | add
  | mul
deriving DecidableEq, Repr

namespace Operator

def symbol : Operator → String
  | add => "+"
  | mul => "*"

/-- The operator in messages on plain values; sums are only taken into an accumulator. -/
def plainSymbol : Operator → String
  | add => "+="
  | mul => "*"

def onBool : Operator → Bool → Bool → Bool
  | add => or
  | mul => and

def onInt : Operator → Int → Int → Int
  | add => (· + ·)
  | mul => (· * ·)

def onFloat32 : Operator → Float32 → Float32 → Float32
  | add => (· + ·)
  | mul => (· * ·)

def onFloat64 : Operator → Float → Float → Float
  | add => (· + ·)
  | mul => (· * ·)

def typed (op : Operator) (x y : Scalar) : Scalar :=
  match x.elemType.promote y.elemType with
  | .bool => .bool (op.onBool (!x.isZero) (!y.isZero))
  | .int t => .int t (t.wrap (op.onInt x.toInt y.toInt))
  | .float32 => .float32 (op.onFloat32 x.asFloat32 y.asFloat32)
  | .float64 | .object => .float64 (op.onFloat64 x.asFloat64 y.asFloat64)

end Operator

/-- A plain integer beside an element: it must fit the type, for which a truth value counts as
`int64`. -/
def integerBeside (n : Int) : ElemType → Except Error Scalar
  | .int t => t.element n
  | .bool | .object => int64.element n
  | .float32 =>
    if Scalar.exceedsFloat64 n then .error .tooLargeForFloat
    else .ok (.float32 (Scalar.toFloat64 n).toFloat32)
  | .float64 =>
    if Scalar.exceedsFloat64 n then .error .tooLargeForFloat
    else .ok (.float64 (Scalar.toFloat64 n))

/-- A plain number with the type it takes beside an element; `none` for what is no number. -/
def numberBeside? (v : Json) (t : ElemType) : Option (Except Error Scalar) :=
  match v with
  | .bool b => some (.ok (Scalar.cast t (.bool b)))
  | .int n => some (integerBeside n t)
  | .float x => some (.ok (if t = .float32 then .float32 x.toFloat32 else .float64 x))
  | _ => none

/-- The name of the plain type that an element of some type has in messages. -/
def ElemType.plainName : ElemType → String
  | bool => "bool"
  | int _ => "int"
  | float32 | float64 => "float"
  | object => "object"

def ElemType.fullName (t : ElemType) : String := "numpy." ++ t.name

inductive PlainNumber where
  | integer (n : Int)
  | real (x : Float)

def PlainNumber.of? : Json → Option PlainNumber
  | .bool b => some (.integer (Scalar.ofBool b))
  | .int n => some (.integer n)
  | .float x => some (.real x)
  | _ => none

def PlainNumber.toFloat : PlainNumber → Except Error Float
  | integer n =>
    if Scalar.exceedsFloat64 n then .error .tooLargeForFloat else .ok (Scalar.toFloat64 n)
  | real x => .ok x

def repeatText (s : String) (count : Int) (type : String) : Scalar :=
  if int64.holds count then .plain (.text (String.join (List.replicate count.toNat s)))
  else .failed (.hugeCount type)

def ofResult : Except Error Scalar → Scalar
  | .ok x => x
  | .error e => .failed e

namespace Operator

def onNumbers (op : Operator) : PlainNumber → PlainNumber → Scalar
  | .integer m, .integer n => .exact (op.onInt m n)
  | x, y => ofResult do return .plain (.float (op.onFloat64 (← x.toFloat) (← y.toFloat)))

def onOthers (op : Operator) (v w : Json) : Scalar :=
  match op, v, w with
  | .add, .text s, .text t => .plain (.text (s ++ t))
  | .add, .text _, w => .failed (.notJoinable w.typeName)
  | .mul, .text s, .int n | .mul, .int n, .text s => repeatText s n "int"
  | .mul, .text s, .bool b | .mul, .bool b, .text s => repeatText s (Scalar.ofBool b) "bool"
  | .mul, .text _, w => .failed (.notRepeatable w.typeName)
  | .mul, v, .text _ => .failed (.notRepeatable v.typeName)
  | op, v, w => .failed (.unsupportedOperands op.plainSymbol v.typeName w.typeName)

def onPlain (op : Operator) (v w : Json) : Scalar :=
  match PlainNumber.of? v, PlainNumber.of? w with
  | some x, some y => op.onNumbers x y
  | _, _ => op.onOthers v w

def onText (op : Operator) (s : String) (x : Scalar) (refused : Error) : Scalar :=
  match op, x with
  | .mul, .int _ n => repeatText s n x.elemType.fullName
  | .mul, x => .failed (.notRepeatable x.elemType.fullName)
  | .add, _ => .failed refused

def apply (op : Operator) (x y : Scalar) : Scalar :=
  match x, y with
  | .failed e, _ => .failed e
  | _, .failed e => .failed e
  | .plain v, .plain w => op.onPlain v w
  | .plain v, y =>
    let refused := .unsupportedOperands op.symbol v.typeName y.elemType.plainName
    match numberBeside? v y.elemType, v with
    | some r, _ => ofResult (r.map (op.typed · y))
    | none, .text s => op.onText s y (.notAddable (Scalar.textType s) y.elemType.name)
    | none, _ => .failed refused
  | x, .plain w =>
    let refused := .unsupportedOperands op.symbol x.elemType.plainName w.typeName
    match numberBeside? w x.elemType, w with
    | some r, _ => ofResult (r.map (op.typed x ·))
    | none, .text s => op.onText s x (.notAddable x.elemType.name (Scalar.textType s))
    | none, _ => .failed refused
  | x, y => op.typed x y

end Operator

namespace Scalar

def add (x y : Scalar) : Scalar := Operator.add.apply x y

def mul (x y : Scalar) : Scalar := Operator.mul.apply x y

end Scalar

end Einsum
