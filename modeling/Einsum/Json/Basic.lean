import Einsum.Number.Literal
import Einsum.Text.Quoted

/-!
JSON values. Integers of any size and floating-point numbers are told apart, and an object keeps the
order in which its fields were first given.
-/

namespace Einsum

inductive Json where
  | null
  | bool (b : Bool)
  | int (n : Int)
  | float (x : Float)
  | text (s : String)
  | list (items : List Json)
  | object (fields : List (String × Json))
deriving Inhabited

namespace Json

/-- A field set: a later value for a name takes the place of the earlier one. -/
def insertField (name : String) (value : Json) : List (String × Json) → List (String × Json)
  | [] => [(name, value)]
  | (n, v) :: fields =>
    if n = name then (n, value) :: fields else (n, v) :: insertField name value fields

def field? (name : String) : Json → Option Json
  | object fields => fields.lookup name
  | _ => none

def typeName : Json → String
  | null => "NoneType"
  | bool _ => "bool"
  | int _ => "int"
  | float _ => "float"
  | text _ => "str"
  | list _ => "list"
  | object _ => "dict"

def truth : Json → Bool
  | null => false
  | bool b => b
  | int n => n ≠ 0
  | float x => x != 0.0
  | text s => s ≠ ""
  | list items => !items.isEmpty
  | object fields => !fields.isEmpty

end Json

def floatText (x : Float) : String := Number.binary64.literal Number.plainStyle x.toBits.toNat

mutual

def Json.literal : Json → String
  | .null => "None"
  | .bool true => "True"
  | .bool false => "False"
  | .int n => toString n
  | .float x => floatText x
  | .text s => Text.quote s
  | .list items => "[" ++ ", ".intercalate (literals items) ++ "]"
  | .object fields => "\x7b" ++ ", ".intercalate (fieldLiterals fields) ++ "\x7d"

def literals : List Json → List String
  | [] => []
  | v :: vs => v.literal :: literals vs

def fieldLiterals : List (String × Json) → List String
  | [] => []
  | (name, v) :: vs => (Text.quote name ++ ": " ++ v.literal) :: fieldLiterals vs

end

def Json.display : Json → String
  | .text s => s
  | v => v.literal

end Einsum
