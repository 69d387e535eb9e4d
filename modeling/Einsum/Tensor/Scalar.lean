import Einsum.Error
import Einsum.Json.Basic
import Einsum.Number.Binary
import Einsum.Tensor.ElemType

/-!
Array elements. An array of objects holds plain values, and what was computed from them.
-/

namespace Einsum

inductive Scalar where
  | bool (b : Bool)
  | int (t : IntType) (n : Int)
  | float32 (x : Float32)
  | float64 (x : Float)
  | plain (v : Json)
  /-- What takes the place of a value that cannot be computed. -/
  | failed (e : Error)
deriving Inhabited

namespace Scalar

@[match_pattern]
abbrev exact (n : Int) : Scalar := plain (.int n)

def toFloat64 (n : Int) : Float := .ofBits (.ofNat (Number.binary64.ofInt n))

def exceedsFloat64 (n : Int) : Bool :=
  Number.binary64.infinity ≤ Number.binary64.roundQuotient n.natAbs 1

def ofBool (b : Bool) : Int := if b then 1 else 0

/-- The integer that a floating-point number truncates to; zero if there is none. -/
def truncate (f : Number.Format) (word : Nat) : Int :=
  match f.decode word with
  | .finite negative m q => Number.truncate negative m q
  | _ => 0

def toInt : Scalar → Int
  | bool b | plain (.bool b) => ofBool b
  | int _ n | plain (.int n) => n
  | float32 x => truncate Number.binary32 x.toBits.toNat
  | float64 x | plain (.float x) => truncate Number.binary64 x.toBits.toNat
  | plain _ | failed _ => 0

def isZero : Scalar → Bool
  | bool b => !b
  | int _ n => n = 0
  | float32 x => x == 0
  | float64 x => x == 0
  | plain v => !v.truth
  | failed _ => false

def elemType : Scalar → ElemType
  | bool _ => .bool
  | int t _ => .int t
  | float32 _ => .float32
  | float64 _ => .float64
  | plain _ | failed _ => .object

def asFloat64 : Scalar → Float
  | float32 x => x.toFloat
  | float64 x | plain (.float x) => x
  | x => toFloat64 x.toInt

/-- Other numbers take double precision on the way to single precision. -/
def asFloat32 : Scalar → Float32
  | float32 x => x
  | x => x.asFloat64.toFloat32

/-- The element as one of another type; an array of objects takes any element as it is. -/
def cast : ElemType → Scalar → Scalar
  | .bool, x => .bool !x.isZero
  | .int t, x => .int t (t.wrap x.toInt)
  | .float32, x => .float32 x.asFloat32
  | .float64, x => .float64 x.asFloat64
  | .object, x => x

def textType (s : String) : String := s!"<U{max 1 s.length}"

def zero (t : ElemType) : Scalar := cast t (exact 0)

def fault? : Scalar → Option Error
  | failed e => some e
  | _ => none

end Scalar

def IntType.word (t : IntType) : IntType := ⟨t.signed || t.width.bits < 32, .w64⟩

def IntType.element (t : IntType) (n : Int) : Except Error Scalar :=
  if t.holds n then .ok (.int t n)
  else .error (if int64.holds n || t.word.holds n then .integerBounds n t.name else .wordOverflow)

end Einsum
