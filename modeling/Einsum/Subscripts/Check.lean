import Einsum.Subscripts.Parse

/-!
Checks on an expression that need no operands: their number, and that no label of the result is
repeated.
-/

namespace Einsum

def nonBlank? : Nat → List Char → Option Nat
  | _, [] => none
  | position, c :: cs =>
    if Text.isBlank c then (nonBlank? position cs).map (· + 1)
    else match position with
      | 0 => some 0
      | position + 1 => (nonBlank? position cs).map (· + 1)

def outputSpan (text : List Char) (position : Nat) : Option Span :=
  match findWord? Token.arrow.chars text with
  | none => none
  | some arrow =>
    (nonBlank? position (text.drop (arrow + 2))).map fun offset => .ofOffset (arrow + 2 + offset) 1

def firstRepeat? (seen : Group) : Group → Option (Nat × Label)
  | [] => none
  | l :: ls =>
    if l ∈ seen then some (0, l)
    else (firstRepeat? (l :: seen) ls).map fun (k, l) => (k + 1, l)

namespace Expression

variable (e : Expression)

def arityReport (operands : Int) : Report where
  fault := .arity e.subscripts.inputs.length operands
  span := match e.text with
    | none | some "" => none
    | some text => some (.whole text)
  text := e.text

def repeatReport (position : Nat) (l : Label) : Report where
  fault := .repeatedOutput l
  span := e.text.bind fun text => outputSpan text.toList position
  text := e.text

def check (operands : Int) : Except Report Unit :=
  if operands ≠ e.subscripts.inputs.length then .error (e.arityReport operands)
  else match firstRepeat? [] e.subscripts.output with
    | some (position, l) => .error (e.repeatReport position l)
    | none => .ok ()

end Expression

end Einsum
