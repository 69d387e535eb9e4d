import Einsum.Error
import Einsum.Path.Basic
import Einsum.Tensor.Basic

/-!
The checks at the start of a kernel: each operand has as many axes as its group has labels, and axes
under one label have one size.
-/

namespace Einsum

inductive Check where
  | rank (operand : Nat) (group : Group)
  | bind (l : Label) (operand axis : Nat)
  | agree (l : Label) (operand axis : Nat)
deriving DecidableEq, Repr

def axisChecks (operand : Nat) : Nat → Group → Group → List Check
  | _, _, [] => []
  | axis, bound, l :: ls =>
    if l ∈ bound then .agree l operand axis :: axisChecks operand (axis + 1) bound ls
    else .bind l operand axis :: axisChecks operand (axis + 1) (l :: bound) ls

def checksFrom : Nat → Group → List Group → List Check
  | _, _, [] => []
  | operand, bound, g :: gs =>
    .rank operand g :: axisChecks operand 0 bound g ++ checksFrom (operand + 1) (g ++ bound) gs

/-- The checks on operands with given groups, in the order they are made. -/
def prologue (groups : List Group) : List Check := checksFrom 0 [] groups

abbrev Sizes (ν : Type) := List (Label × ν)

def writtenLabel (labels : Group) (l : Label) : Label :=
  if 'a' ≤ l then labels.getD (l.toNat - 'a'.toNat) l else l

def requireRank (actual expected : Int) (name : String) (group labels : Group) :
    Except Report Unit :=
  if actual = expected then .ok ()
  else .error { fault := .rank name (group.map (writtenLabel labels)) expected actual }

def requireSize (labels : Group) (l : Label) (expected actual : Int) (name : String) (axis : Int) :
    Except Report Unit :=
  if expected = actual then .ok ()
  else .error { fault := .size (writtenLabel labels l) name axis expected actual }

/-- A check made on operands of given shapes, and the sizes known after it. -/
def Check.run (labels : Group) (shapes : List Shape) (sizes : Sizes Nat) :
    Check → Except Report (Sizes Nat)
  | rank operand group =>
    let shape := shapes.getD operand []
    (requireRank shape.length group.length (operandName operand) group labels).map fun _ => sizes
  | bind l operand axis => .ok (sizes ++ [(l, (shapes.getD operand []).getD axis 0)])
  | agree l operand axis =>
    let actual := (shapes.getD operand []).getD axis 0
    (requireSize labels l ((sizes.lookup l).getD 0 : Nat) actual (operandName operand) axis).map
      fun _ => sizes

def runChecks (labels : Group) (shapes : List Shape) (sizes : Sizes Nat) :
    List Check → Except Report (Sizes Nat)
  | [] => .ok sizes
  | c :: cs =>
    match c.run labels shapes sizes with
    | .error r => .error r
    | .ok sizes => runChecks labels shapes sizes cs

end Einsum
