import Einsum.Kernel.Kind
import Einsum.Subscripts.Parse
import Einsum.Tensor.Json

/-!
Values of all kinds that a description may hold, and the JSON that shows them.
-/

namespace Einsum

inductive Value where
  | json (v : Json)
  | kind (k : KernelKind)
  | constant (v : Json)
  | scalar (x : Scalar)
  | array (t : Tensor Scalar)
  | list (items : List Value)
  | tuple (items : List Value)
  | set (members : List Value)
  | record (fields : List (Value × Value))
  | subscripts (e : Expression)

def KernelKind.constantName : KernelKind → String
  | generalReduction => "OpKind.GENERAL_REDUCTION"
  | matrixProduct => "OpKind.MATRIX_PRODUCT"
  | diagonalExtraction => "OpKind.DIAGONAL_EXTRACTION"
  | trace => "OpKind.TRACE"

def tupleText : List String → String
  | [a] => s!"({a},)"
  | as => "(" ++ ", ".intercalate as ++ ")"

def Group.literal (g : Group) : String := tupleText (g.map fun l => Text.quote (String.singleton l))

def Expression.literal (e : Expression) : String :=
  let inputs := tupleText (e.subscripts.inputs.map Group.literal)
  let explicit := if e.explicit then "True" else "False"
  s!"Subscripts(inputs={inputs}, output={e.subscripts.output.literal}, explicit={explicit})"

mutual

def Value.literal : Value → String
  | .json v | .constant v => v.literal
  | .kind k => s!"<{k.constantName}: {Text.quote k.name}>"
  | .scalar x => x.literal
  | .array t => t.json.literal
  | .list items => "[" ++ ", ".intercalate (valueLiterals items) ++ "]"
  | .tuple items => tupleText (valueLiterals items)
  | .set members => "\x7b" ++ ", ".intercalate (valueLiterals members) ++ "\x7d"
  | .record fields => "\x7b" ++ ", ".intercalate (recordLiterals fields) ++ "\x7d"
  | .subscripts e => e.literal

def valueLiterals : List Value → List String
  | [] => []
  | v :: vs => v.literal :: valueLiterals vs

def recordLiterals : List (Value × Value) → List String
  | [] => []
  | (k, v) :: vs => (k.literal ++ ": " ++ v.literal) :: recordLiterals vs

end

def Value.display : Value → String
  | .json v | .constant v => v.display
  | .kind k => k.constantName
  | .scalar x => x.text
  | .subscripts e => e.subscripts.text
  | v => v.literal

mutual

/-- The JSON for a value. Truth values of arrays stand alone as text, and so does what JSON has no
form for. -/
def Value.toJson : Value → Json
  | .json v | .constant v => v
  | .kind k => .text k.name
  | .scalar (.bool b) => .text (Scalar.text (.bool b))
  | .scalar x => x.json
  | .array t => t.json
  | .list items | .tuple items | .set items => .list (valuesJson items)
  | .record fields => .object (recordJson [] fields)
  | .subscripts e => .text e.subscripts.text

def valuesJson : List Value → List Json
  | [] => []
  | v :: vs => v.toJson :: valuesJson vs

def recordJson (seen : List (String × Json)) : List (Value × Value) → List (String × Json)
  | [] => seen
  | (k, v) :: vs => recordJson (Json.insertField k.display v.toJson seen) vs

end

end Einsum
