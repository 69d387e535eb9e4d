import Einsum.Kernel.Lexis
import Einsum.Kernel.Source
import Einsum.Text.Normal

/-!
Calling a kernel on operands.
-/

namespace Einsum

def Block.loopLabels : Block → Group
  | atom _ => []
  | seq b c => b.loopLabels ++ c.loopLabels
  | loop labels b => labels ++ b.loopLabels

namespace Kernel

/-- Is the source a program, digits as loop variables aside? It needs an operand, and names made of
identifier characters. -/
def isPlain (k : Kernel) : Bool :=
  !k.pattern.inputs.isEmpty && Text.isIdentifier (k.name.toList.dropWhile Lexis.isBlank) &&
    k.pattern.labels.all fun l => Text.isIdentifierStart l || l.isDigit

def reservedName : String := "__debug__"

def refusal? (k : Kernel) : Option String :=
  if !k.isPlain then some ((Lexis.headFault? k.source).getD "invalid syntax")
  else if k.body.loopLabels.any Char.isDigit then some "cannot assign to literal"
  else if k.name.toList.dropWhile Lexis.isBlank = reservedName.toList then
    some s!"cannot assign to {reservedName}"
  else none

/-- A kernel is defined under the normal form of its name, and looked up under the name itself. -/
def compile (k : Kernel) : Except Error Unit :=
  if k.name.contains '\x00' then .error .nullCharacter
  else match k.refusal? with
    | some cause => .error (.report { fault := .notCompilable k.name k.pattern.text cause })
    | none =>
      if Text.isIdentifier k.name.toList && Text.isNormal k.name.toList then .ok ()
      else .error (.missingKey (Text.quote k.name))

/-- A call passes the operands and then the labels. -/
def checkCount (k : Kernel) (actual : Nat) : Except Error Unit :=
  let expected := k.pattern.inputs.length
  if actual = expected then .ok ()
  else if actual < expected then
    let missing := (k.pattern.operandNames ++ ["labels"]).drop (actual + 1)
    .error (.missingArguments k.name missing)
  else .error (.extraArguments k.name (expected + 1) (actual + 1))

section

variable {α : Type} (ops : Arithmetic α)

def assignment (sizes : Sizes Nat) : Assignment := fun l => (sizes.lookup l).getD 0

def resultShape (sizes : Sizes Nat) : Group → Except Error Shape
  | [] => .ok []
  | l :: ls =>
    match sizes.lookup l with
    | none => .error (.unbound (sizeName l))
    | some n => (resultShape sizes ls).map (n :: ·)

def shapeAt (operands : List (Tensor α)) (result : Tensor α) : Place → Shape
  | .operand i => ((operands[i]?).map Tensor.shape).getD []
  | .result => result.shape

def call (k : Kernel) (labels : Group) (operands : List (Tensor α)) : Except Error (Tensor α) := do
  k.checkCount operands.length
  let sizes ← (runChecks labels (operands.map Tensor.shape) []
    (prologue k.pattern.inputs)).mapError .report
  let shape ← resultShape sizes k.pattern.output
  let result ← zeros ops (shape.map fun n : Nat => (n : Int)) (operands.map Tensor.type)
  match k.body.fault? (shapeAt operands result) (assignment sizes) [] with
  | some e => throw e
  | none =>
    let store := k.body.fill ops operands (assignment sizes) result
    match store.failure with
    | some e => throw e
    | none => return store.result

end

end Kernel

end Einsum
