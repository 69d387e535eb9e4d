import Einsum.Label
import Einsum.Text.Combining
import Einsum.Text.Composition
import Einsum.Text.Variant

/-!
The normal form of text: characters are taken apart, marks put in order, and the parts composed
again.
-/

namespace Einsum.Text

/-- A character taken apart; `fuel` bounds how often its first part is taken apart in turn. -/
def decompose : Nat → Char → List Char
  | 0, c => [c]
  | fuel + 1, c =>
    match parts? c with
    | some (a, b) => decompose fuel a ++ [b]
    | none => [c]

def decompositionDepth : Nat := 4

def classLe (a b : Char) : Bool := combiningClass a ≤ combiningClass b

def orderMarks : List Char → List Char
  | [] => []
  | c :: cs =>
    let rest := orderMarks cs
    if combiningClass c = 0 then c :: rest
    else
      let marks := rest.takeWhile fun d => combiningClass d ≠ 0
      insertOrdered classLe c marks ++ rest.drop marks.length

/-- Text being composed: what is finished, the last character that marks can join, the marks behind
it that did not, and the class of the last of those. -/
structure Composing where
  finished : List Char
  base : Option Char
  marks : List Char
  last : Nat

namespace Composing

def chars (s : Composing) : List Char := s.finished ++ s.base.toList ++ s.marks

/-- A mark joins the base unless a mark of its class or a later one stands between. -/
def step (s : Composing) (c : Char) : Composing :=
  let k := combiningClass c
  let isFree := s.marks.isEmpty || (s.last < k && k ≠ 0)
  match s.base.bind (compose? · c), isFree with
  | some d, true => { s with base := some d }
  | _, _ =>
    if k = 0 then ⟨s.chars, some c, [], 0⟩ else { s with marks := s.marks ++ [c], last := k }

end Composing

def compose (cs : List Char) : List Char := (cs.foldl Composing.step ⟨[], none, [], 0⟩).chars

/-- Is a text its own normal form? Plain ASCII text always is. -/
def isNormal (cs : List Char) : Bool :=
  cs.all (·.toNat < 0x80) ||
    (!cs.any isVariant && compose (orderMarks (cs.flatMap (decompose decompositionDepth))) = cs)

end Einsum.Text
