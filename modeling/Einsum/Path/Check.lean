import Einsum.Error
import Einsum.Path.Basic

/-!
The check of a path before it is lowered: each step reads live tensors, and the last one yields the
result of the expression.
-/

namespace Einsum

abbrev Live := List (String × Group)

def Live.put (name : String) (g : Group) : Live → Live
  | [] => [(name, g)]
  | (n, h) :: live => if n = name then (n, g) :: live else (n, h) :: Live.put name g live

def Live.remove (name : String) (live : Live) : Live := live.filter (·.1 ≠ name)

def Live.has (live : Live) (t : NamedTensor) : Bool := live.lookup t.name == some t.labels

def Live.step (live : Live) (position : Nat) (s : Step) : Except Report Live :=
  if !live.has s.left then .error { fault := .deadTensor position s.text s.left.name }
  else if !live.has s.right then .error { fault := .deadTensor position s.text s.right.name }
  else if s.left.name = s.right.name then .error { fault := .selfContraction position s.text }
  else if !s.result.labels.all (fun l => l ∈ s.left.labels ++ s.right.labels) then
    .error { fault := .unknownLabels position s.text }
  else .ok (((live.remove s.left.name).remove s.right.name).put s.result.name s.result.labels)

def Live.run : Nat → Live → List Step → Except Report Live
  | _, live, [] => .ok live
  | position, live, s :: steps =>
    match live.step position s with
    | .error r => .error r
    | .ok live => Live.run (position + 1) live steps

def Path.check (p : Path) : Except Report Unit :=
  match Live.run 0 (p.subscripts.operandTensors.map fun t => (t.name, t.labels)) p.steps with
  | .error r => .error r
  | .ok live =>
    if live = [(finalName, p.subscripts.output)] then .ok ()
    else .error { fault := .incomplete p.subscripts }

end Einsum
