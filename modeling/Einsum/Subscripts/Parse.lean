import Einsum.Fault
import Einsum.Subscripts.Token
import Einsum.Text.Blank

/-!
Reading subscripts. The first fault from the left is reported: an ellipsis before all else, then a
character that starts no token or a comma after an arrow, then an empty group, a second arrow, and a
label of the result that no operand has.
-/

namespace Einsum

structure Expression where
  subscripts : Subscripts
  explicit : Bool := true
  text : Option String := none
deriving DecidableEq, Repr

def findWord? (word : List Char) : List Char → Option Nat
  | [] => if word.isEmpty then some 0 else none
  | c :: cs => if word.isPrefixOf (c :: cs) then some 0 else (findWord? word cs).map (· + 1)

def ellipsis : List Char := ['.', '.', '.']

def commaAfterArrow? (lexemes : List Lexeme) : Option Nat :=
  ((lexemes.dropWhile (·.token ≠ .arrow)).find? (·.token = .comma)).map (·.offset)

/-- The groups of lexemes between separators, one more than there are separators. -/
def splitLexemes (separator : Token) : List Lexeme → List (List Lexeme)
  | [] => [[]]
  | x :: xs =>
    if x.token = separator then [] :: splitLexemes separator xs
    else match splitLexemes separator xs with
      | [] => [[x]]
      | g :: gs => (x :: g) :: gs

def placedLabels : List Lexeme → List (Label × Nat)
  | [] => []
  | ⟨.label l, offset⟩ :: xs => (l, offset) :: placedLabels xs
  | _ :: xs => placedLabels xs

def labelsOf (lexemes : List Lexeme) : Group := (placedLabels lexemes).map Prod.fst

/-- What the tokens say: the groups before the first arrow, and those behind each arrow. -/
structure Outline where
  inputs : List (List Lexeme)
  outputs : List (List Lexeme)
  commas : List Lexeme
  arrows : List Lexeme
deriving Repr

def Outline.ofLexemes (lexemes : List Lexeme) : Outline where
  inputs := splitLexemes .comma (lexemes.takeWhile (·.token ≠ .arrow))
  outputs := (splitLexemes .arrow lexemes).tail
  commas := lexemes.filter (·.token = .comma)
  arrows := lexemes.filter (·.token = .arrow)

def Lexeme.span (x : Lexeme) : Span := .ofOffset x.offset x.token.length

/-- An empty group is shown at the separator that ends it, or behind the text. -/
def Outline.emptySpan (o : Outline) (text : List Char) (position : Nat) : Span :=
  match o.commas[position]?, o.arrows with
  | some comma, _ => comma.span
  | none, arrow :: _ => arrow.span
  | none, [] => .ofOffset (Text.trimRight text).length 1

section

variable (text : String)

def rejection (fault : Fault) (span : Span) : Report := { fault, span, text }

def Outline.expression (o : Outline) : Except Report Expression :=
  let inputs := o.inputs.map labelsOf
  match o.inputs.findIdx? List.isEmpty, o.arrows with
  | some position, _ =>
    .error (rejection text (.emptyGroup position) (o.emptySpan text.toList position))
  | none, _ :: second :: _ => .error (rejection text .secondArrow second.span)
  | none, [] => .ok ⟨⟨inputs, impliedOutput inputs⟩, false, text⟩
  | none, [_] =>
    let output := o.outputs.headD []
    match (placedLabels output).find? (·.1 ∉ inputs.flatten) with
    | some (l, offset) => .error (rejection text (.unknownOutput l) (.ofOffset offset 1))
    | none => .ok ⟨⟨inputs, labelsOf output⟩, true, text⟩

/-- Read subscripts; without an arrow the result is inferred. -/
def parse : Except Report Expression :=
  let cs := text.toList
  match findWord? ellipsis cs with
  | some offset => .error (rejection text .ellipsis (.ofOffset offset ellipsis.length))
  | none =>
    let (lexemes, stop) := scan 0 cs
    match commaAfterArrow? lexemes, stop with
    | some offset, _ => .error (rejection text (.misplaced text) (.ofOffset offset 1))
    | none, some stop => .error (rejection text (.unrecognized stop.char) (.ofOffset stop.offset 1))
    | none, none => (Outline.ofLexemes lexemes).expression text

end

end Einsum
