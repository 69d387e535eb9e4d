import Einsum.Text.Blank
import Einsum.Text.Integer

/-!
Shapes as they are written on the command line.
-/

namespace Einsum.Command

/-- Sizes separated by commas. A text that is none is given back in the message without blanks
around. -/
def readShape (text : String) : Except String (List Int) :=
  let cs := Text.trim text.toList
  if cs.isEmpty then .ok []
  else
    match (cs.splitOn ',').mapM fun part => (Text.readInteger (String.ofList part)).toOption with
    | some sizes => .ok sizes
    | none => .error s!"Invalid shape '{String.ofList cs}'; expected comma separated integers"

end Einsum.Command
