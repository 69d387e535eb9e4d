import Einsum.Error
import Einsum.Json.Basic

/-!
Integers from JSON values: text is read, floating-point numbers lose their fraction, truth values
count as one and zero. Integers with too many digits are not written.
-/

namespace Einsum.Json

def ofFloat (x : Float) : Except Error Int :=
  match Number.binary64.decode x.toBits.toNat with
  | .finite negative m q => .ok (Number.truncate negative m q)
  | .infinite _ => .error .infiniteInteger
  | .undefined => .error .undefinedInteger

def toInteger : Json → Except Error Int
  | int n => .ok n
  | bool b => .ok (if b then 1 else 0)
  | float x => ofFloat x
  | text s => (Text.readInteger s).mapError (.integer s)
  | v => .error (.notConvertible v.typeName)

def integerLimit : Nat := tenPow Text.maxDigits

mutual

def isWritable : Json → Bool
  | int n => n.natAbs < integerLimit
  | list items => areWritable items
  | object fields => areFieldsWritable fields
  | _ => true

def areWritable : List Json → Bool
  | [] => true
  | v :: vs => v.isWritable && areWritable vs

def areFieldsWritable : List (String × Json) → Bool
  | [] => true
  | (_, v) :: vs => v.isWritable && areFieldsWritable vs

end

end Einsum.Json
