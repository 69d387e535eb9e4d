import Einsum.Label

/-!
The tokens of subscripts: labels, commas and arrows, with the offsets where they start.
-/

namespace Einsum

inductive Token where
  | label (l : Label)
  | comma
  | arrow
deriving DecidableEq, Repr

namespace Token

def chars : Token → List Char
  | label l => [l]
  | comma => [',']
  | arrow => ['-', '>']

def length (t : Token) : Nat := t.chars.length

end Token

structure Lexeme where
  token : Token
  offset : Nat
deriving DecidableEq, Repr

structure Stop where
  char : Char
  offset : Nat
deriving DecidableEq, Repr

/-- Space, tab, line feed, form feed and carriage return stand between tokens without a meaning. -/
def isIgnored (c : Char) : Bool := c == ' ' || c == '\t' || c == '\n' || c == '\x0c' || c == '\r'

def isLabel (c : Char) : Bool := 'a' ≤ c && c ≤ 'z'

/-- The tokens from an offset on, up to the first character that starts none. -/
def scan : Nat → List Char → List Lexeme × Option Stop
  | _, [] => ([], none)
  | offset, '-' :: '>' :: cs =>
    let (lexemes, stop) := scan (offset + 2) cs
    (⟨.arrow, offset⟩ :: lexemes, stop)
  | offset, c :: cs =>
    if isIgnored c then scan (offset + 1) cs
    else if isLabel c then
      let (lexemes, stop) := scan (offset + 1) cs
      (⟨.label c, offset⟩ :: lexemes, stop)
    else if c == ',' then
      let (lexemes, stop) := scan (offset + 1) cs
      (⟨.comma, offset⟩ :: lexemes, stop)
    else ([], some ⟨c, offset⟩)

end Einsum
