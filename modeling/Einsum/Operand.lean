import Einsum.Program
import Einsum.Tensor.Nested

/-!
Operands of a call: arrays, or nested lists that are turned into arrays when an expression is
evaluated.
-/

namespace Einsum

inductive Operand where
  | array (t : Tensor Scalar)
  | nested (v : Json)

namespace Operand

def tensor : Operand → Except Error (Tensor Scalar)
  | array t => .ok t
  | nested v => Tensor.ofNested v

def array? : Operand → Except Error (Tensor Scalar)
  | array t => .ok t
  | nested v => .error (.noAttribute v.typeName "shape")

/-- The element type of an operand, if it has one whatever the others are. -/
def ownType? : Operand → Option ElemType
  | array t => some t.type
  | nested (.bool _) => some .bool
  | nested .null => some .float64
  | nested (.text name) => ElemType.ofName? name
  | nested _ => none

/-- The type that a bare number adds to those of the other operands: none, if they hold such
numbers. -/
def addedType? (others : List ElemType) : Operand → Option ElemType
  | nested (.int _) =>
    if others.isEmpty || ElemType.common others = .bool then some (.int int64) else none
  | nested (.float _) =>
    match others, ElemType.common others with
    | [], _ => some .float64
    | _, .bool | _, .int _ => some .float64
    | _, _ => none
  | _ => none

/-- The types that the operands of an allocation combine to. A list is taken for the description of
a record, and a text for the name of a type; an integer alone takes a type that holds it. -/
def types (operands : List Operand) : Except Error (List ElemType) :=
  let fault := operands.findSome? fun
    | nested (.list (v :: _)) => some (.fieldElement v.literal)
    | nested (.text name) => if (ElemType.ofName? name).isSome then none else some (.notAType name)
    | _ => none
  match fault, operands with
  | some e, _ => .error e
  | none, [nested (.int n)] => .ok [integerType n]
  | none, operands =>
    let own := operands.filterMap ownType?
    .ok (own ++ operands.filterMap (addedType? own))

end Operand

def arraysBefore : List Operand → List (Tensor Scalar)
  | .array t :: rest => t :: arraysBefore rest
  | _ => []

/-- A kernel called directly. The operands before the first that is no array are checked, and then
that one fails. -/
def Kernel.apply (k : Kernel) (labels : Group) (operands : List Operand) :
    Except Error (Tensor Scalar) := do
  k.checkCount operands.length
  match operands.mapM Operand.array? with
  | .ok tensors => k.call Scalar.arithmetic labels tensors
  | .error e =>
    let before := arraysBefore operands
    let _ ← (runChecks labels (before.map Tensor.shape) []
      (prologue (k.pattern.inputs.take before.length))).mapError .report
    throw e

/-- The value of a compiled expression. The number of operands is looked at before they are. -/
def Program.call (p : Program) (operands : List Operand) : Except Error (Tensor Scalar) := do
  (p.checkArity operands.length).mapError .report
  p.evaluate Scalar.arithmetic (← operands.mapM Operand.tensor)

end Einsum
