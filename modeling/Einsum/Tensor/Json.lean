import Einsum.Json.Integer
import Einsum.Tensor.Nested

/-!
Elements and arrays as text and as JSON.
-/

namespace Einsum

namespace Scalar

def json : Scalar → Json
  | bool b => .bool b
  | int _ n => .int n
  | float32 x => .float x.toFloat
  | float64 x => .float x
  | plain v => v
  | failed _ => .null

def text : Scalar → String
  | bool b => if b then "True" else "False"
  | int _ n => toString n
  | float32 x => Number.binary32.literal Number.singleStyle x.toBits.toNat
  | float64 x => floatText x
  | plain v => v.display
  | failed _ => ""

def literal : Scalar → String
  | bool b => if b then "np.True_" else "np.False_"
  | plain v => v.literal
  | x => s!"np.{x.elemType.name}({x.text})"

def textFault? : Scalar → Option Error
  | plain v => if v.isWritable then none else some .unwritableInteger
  | _ => none

/-- Why an element cannot be written as JSON. Among objects, elements with a type have no form, save
for double precision. -/
def jsonFault? (type : ElemType) (x : Scalar) : Option Error :=
  match type, x with
  | .object, .plain _ | .object, .float64 _ => x.textFault?
  | .object, x => some (.notJson x.elemType.name)
  | _, _ => none

end Scalar

def pieces {α : Type} (length : Nat) : Nat → List α → List (List α)
  | 0, _ => []
  | count + 1, as => as.take length :: pieces length count (as.drop length)

def nestedJson : Shape → List Json → Json
  | [], vs => vs.headD .null
  | n :: ns, vs => .list ((pieces (Shape.size ns) n vs).map (nestedJson ns))

def Tensor.json (t : Tensor Scalar) : Json := nestedJson t.shape (t.data.toList.map Scalar.json)

def Tensor.jsonFault? (t : Tensor Scalar) : Option Error :=
  t.data.toList.findSome? (Scalar.jsonFault? t.type)

end Einsum
