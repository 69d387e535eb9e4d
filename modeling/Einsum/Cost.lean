import Einsum.Json.Integer
import Einsum.Kernel.Prologue

/-!
Sizes of labels, and how many operations and elements the steps of a path take at these sizes.
-/

namespace Einsum

abbrev Size := Except Error Int

section

variable (operand : Nat)

def learnAxis (axis : Nat) (sizes : Sizes Int) (l : Label) (n : Int) : Except Report (Sizes Int) :=
  match sizes.lookup l with
  | none => .ok (sizes ++ [(l, n)])
  | some m =>
    if m = n then .ok sizes else .error { fault := .size l (operandName operand) axis m n }

def learnAxes : Nat → Sizes Int → Group → List Size → Except Error (Sizes Int)
  | axis, sizes, l :: ls, n :: ns => do
    let n ← n
    let sizes ← (learnAxis operand axis sizes l n).mapError .report
    learnAxes (axis + 1) sizes ls ns
  | _, sizes, _, _ => .ok sizes

end

def learnOperands : Nat → Sizes Int → List Group → List (Except Error (List Size)) →
    Except Error (Sizes Int)
  | operand, sizes, g :: gs, shape :: shapes => do
    let shape ← shape
    if shape.length ≠ g.length then
      throw (.report { fault := .rank (operandName operand) g g.length shape.length })
    let sizes ← learnAxes operand 0 sizes g shape
    learnOperands (operand + 1) sizes gs shapes
  | _, sizes, _, _ => .ok sizes

/-- The size of each label when the operands have given shapes. Shapes and sizes are looked at one
by one, so that the first fault counts. -/
def Subscripts.labelSizes (s : Subscripts) (shapes : List (Except Error (List Size))) :
    Except Error (Sizes Int) :=
  if shapes.length ≠ s.inputs.length then .error .shapeCount
  else learnOperands 0 [] s.inputs shapes

def plainShape (shape : List Int) : Except Error (List Size) := .ok (shape.map .ok)

/-- A shape given as a value: a list, or a text whose characters are the sizes. -/
def valueShape : Json → Except Error (List Size)
  | .list items => .ok (items.map Json.toInteger)
  | .text s => .ok (s.toList.map fun c => Json.toInteger (.text (String.singleton c)))
  | .object fields => .ok (fields.map fun (name, _) => Json.toInteger (.text name))
  | v => .error (.notMeasurable v.typeName)

/-- The size of a label given as a value. Of a number, the whole part counts, and it is at least
one. -/
def valueSize : Json → Except Error Int
  | .int n => .ok n
  | .bool b => .ok (Scalar.ofBool b)
  | .float x => if 1 < x then Json.toInteger (.float x) else .ok 1
  | v => .error (.notComparable v.typeName "int")

/-- The number of elements under some labels; an empty axis counts as one element. -/
def elementCount (sizes : Sizes Int) : Group → Except Error Nat
  | [] => .ok 1
  | l :: ls =>
    match sizes.lookup l with
    | none => .error (.missingKey (Text.quote (String.singleton l)))
    | some n => (elementCount sizes ls).map ((max 1 n).toNat * ·)

structure Tally where
  operations : Nat
  elementsIn : Nat
  elementsOut : Nat
  summed : Group
deriving DecidableEq, Repr

def Tally.flops (t : Tally) : Float := Scalar.toFloat64 t.operations

namespace Subscripts

variable (s : Subscripts)

/-- Products of all operands take one multiplication less than there are operands; a sum takes one
addition for each term. -/
def operationCount (out reduced : Nat) : Nat :=
  let factors := s.inputs.length - 1
  if s.summed.isEmpty then factors * out else (factors + 1) * out * reduced

def tally (sizes : Sizes Int) : Except Error Tally := do
  let out ← elementCount sizes s.output
  let reduced ← elementCount sizes s.summed
  let operations := s.operationCount out reduced
  if Number.binary64.infinity ≤ Number.binary64.ofInt operations then
    throw .tooLargeForFloat
  let counts ← s.inputs.mapM (elementCount sizes)
  return ⟨operations, counts.foldr (· + ·) 0, out, s.summed⟩

end Subscripts

def Path.tally (p : Path) (sizes : Sizes Int) : Except Error (List Tally) :=
  p.kernelSubscripts.mapM (·.tally sizes)

end Einsum
