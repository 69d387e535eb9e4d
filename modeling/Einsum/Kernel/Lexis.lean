import Einsum.Kernel.Numeral
import Einsum.Text.Identifier
import Einsum.Text.Lines
import Einsum.Text.Printable
import Einsum.Text.Quoted

/-!
The words of a source text. A scanner goes through the characters one by one; it stops at the first
that no word can hold, at a bracket that closes another one, and at a number or a string that does
not end.
-/

namespace Einsum.Lexis

inductive Token where
  | name
  | define
  | parenthesis
  | newline
  | other
deriving DecidableEq, Repr

inductive Mode where
  | indent (column : Nat)
  | code
  | name (read : List Char)
  | comment
  | quote (q : Char) (count : Nat)
  | string (q : Char) (escaped : Bool)
  /-- Inside a string between three quotes, the last few of the characters before being quotes. -/
  | longString (q : Char) (quotes : Nat) (escaped : Bool)
  | continuation
deriving DecidableEq, Repr

/-- Where scanning stops. A hard stop counts wherever it is, a soft one only before any other
fault. -/
structure Stop where
  message : String
  isHard : Bool := true
deriving DecidableEq, Repr

structure State where
  mode : Mode := .indent 0
  /-- How many characters the last word still has. -/
  pending : Nat := 0
  line : Nat := 1
  brackets : List (Char × Nat) := []
  columns : List Nat := [0]
  tokens : List Token := []
  stop : Option Stop := none

namespace State

variable (s : State)

def fail (message : String) : State := { s with stop := some { message } }

def failSoftly (message : String) : State := { s with stop := some { message, isHard := false } }

def emit (t : Token) : State := { s with mode := .code, tokens := t :: s.tokens }

end State

def isNameStart (c : Char) : Bool := c.isAlpha || c == '_' || 0x80 ≤ c.toNat

def isNamePart (c : Char) : Bool := isNameStart c || c.isDigit

def keywords : List String :=
  ["False", "None", "True", "and", "as", "assert", "async", "await", "break", "class", "continue",
    "del", "elif", "else", "except", "finally", "for", "from", "global", "if", "import", "in", "is",
    "lambda", "nonlocal", "not", "or", "pass", "raise", "return", "try", "while", "with", "yield"]

def stringMarks : List String := ["b", "u", "r", "f", "br", "rb", "fr", "rf"]

def misplaced? : List Char → Option Char
  | [] => none
  | c :: cs =>
    if Text.isIdentifierStart c || c == '_' then cs.find? fun d => !Text.isIdentifierPart d
    else some c

def isQuote (c : Char) : Bool := c == '"' || c == '\''

def characterFault (c : Char) : String :=
  let width := if c.toNat < 0x10000 then 4 else if c.toNat < 0x100000 then 5 else 6
  let code := String.ofList ((Text.hexadecimal width c.toNat).map Char.toUpper)
  if Text.isPrintable c then s!"invalid character '{c}' (U+{code})"
  else s!"invalid non-printable character U+{code}"

def closes : Char → Char → Bool
  | '(', ')' => true
  | '[', ']' => true
  | a, b => a == '\x7b' && b == '\x7d'

def isOpening (c : Char) : Bool := c == '(' || c == '[' || c == '\x7b'

def isClosing (c : Char) : Bool := c == ')' || c == ']' || c == '\x7d'

def isBlank (c : Char) : Bool := c == ' ' || c == '\t' || c == '\x0c'

namespace State

variable (s : State)

def close (c : Char) : State :=
  match s.brackets with
  | [] => s.fail s!"unmatched '{c}'"
  | (b, line) :: rest =>
    if closes b c then { s with brackets := rest }.emit .other
    else
      let place := if line = s.line then "" else s!" on line {line}"
      s.fail s!"closing parenthesis '{c}' does not match opening parenthesis '{b}'{place}"

def newline : State :=
  let s := { s with line := s.line + 1 }
  if !s.brackets.isEmpty then { s with mode := .code }
  else match s.tokens with
    | [] | .newline :: _ => { s with mode := .indent 0 }
    | tokens => { s with mode := .indent 0, tokens := .newline :: tokens }

def settle (column : Nat) : State :=
  let s := { s with mode := .code }
  if s.columns.headD 0 < column then
    { s with columns := column :: s.columns, tokens := .other :: s.tokens }
  else
    let columns := s.columns.dropWhile (column < ·)
    if columns.headD 0 = column then { s with columns }
    else s.failSoftly "unindent does not match any outer indentation level"

def number (rest : List Char) (result : Except String (List Char)) : State :=
  match result with
  | .error message => s.fail message
  | .ok after => { s with pending := rest.length - after.length }.emit .other

def start (c : Char) (rest : List Char) : State :=
  if isBlank c then { s with mode := .code }
  else if c == '\n' then s.newline
  else if c == '#' then { s with mode := .comment }
  else if isQuote c then { s with mode := .quote c 1 }
  else if c == '\\' then { s with mode := .continuation }
  else if isNameStart c then { s with mode := .name [c] }
  else if c.isDigit then s.number rest (Numeral.endAfter c rest)
  else if c == '.' && (rest.head?.map Char.isDigit).getD false then
    s.number rest (Numeral.fractionEnd rest)
  else if isOpening c then
    { s with brackets := (c, s.line) :: s.brackets }.emit
      (if c == '(' then .parenthesis else .other)
  else if isClosing c then s.close c
  else if Text.isPrintable c then s.emit .other
  else s.fail (characterFault c)

def finishName (name : List Char) : State :=
  match misplaced? name with
  | some c => s.fail (characterFault c)
  | none =>
    let word := String.ofList name
    s.emit (if word = "def" then .define else if keywords.contains word then .other else .name)

def step (c : Char) (rest : List Char) : State :=
  if s.stop.isSome then s
  else if 0 < s.pending then { s with pending := s.pending - 1 }
  else match s.mode with
    | .indent column =>
      if c == ' ' then { s with mode := .indent (column + 1) }
      else if c == '\t' then { s with mode := .indent ((column / 8 + 1) * 8) }
      else if c == '\x0c' then { s with mode := .indent 0 }
      else if c == '#' || c == '\n' then { s with mode := .code }.start c rest
      else
        let s := s.settle column
        if s.stop.isSome then s else s.start c rest
    | .code => s.start c rest
    | .name read =>
      if isNamePart c then { s with mode := .name (c :: read) }
      else
        let name := read.reverse
        if isQuote c && stringMarks.contains (String.ofList (name.map Char.toLower)) then
          { s with mode := .quote c 1 }
        else
          let s := s.finishName name
          if s.stop.isSome then s else s.start c rest
    | .comment => if c == '\n' then s.newline else s
    | .quote q count =>
      if c == q then { s with mode := if count = 1 then .quote q 2 else .longString q 0 false }
      else if count = 2 then (s.emit .other).start c rest
      else if c == '\n' then s.fail s!"unterminated string literal (detected at line {s.line})"
      else { s with mode := .string q (c == '\\') }
    | .string q escaped =>
      if escaped then
        { s with mode := .string q false, line := if c == '\n' then s.line + 1 else s.line }
      else if c == '\n' then s.fail s!"unterminated string literal (detected at line {s.line})"
      else if c == q then s.emit .other
      else { s with mode := .string q (c == '\\') }
    | .longString q quotes escaped =>
      let s := if c == '\n' then { s with line := s.line + 1 } else s
      if escaped then { s with mode := .longString q 0 false }
      else if c == q then
        if quotes = 2 then s.emit .other else { s with mode := .longString q (quotes + 1) false }
      else { s with mode := .longString q 0 (c == '\\') }
    | .continuation =>
      if c == '\n' then { s with mode := .code, line := s.line + 1 }
      else s.failSoftly "unexpected character after line continuation character"

def finish : State :=
  match s.stop, s.mode with
  | none, .longString _ _ _ =>
    s.fail s!"unterminated triple-quoted string literal (detected at line {s.line - 1})"
  | _, _ => s

end State

def run (s : State) : List Char → State
  | [] => s.finish
  | c :: cs => run (s.step c cs) cs

def scan (source : String) : State := run {} (Text.plainLines source.toList)

/-- What is wrong with the words of a text that should begin with the head of a function. -/
def headFault? (source : String) : Option String :=
  let s := scan source
  let hard := s.stop.bind fun stop => if stop.isHard then some stop.message else none
  match s.tokens.reverse, s.stop with
  | [], some stop | [.define], some stop | [.define, .name], some stop
  | [.define, .name, .parenthesis], some stop | [.define, .name, .parenthesis, .name], some stop =>
    some stop.message
  | .define :: .name :: .parenthesis :: _, _ => hard
  | .define :: .name :: _, _ => some (hard.getD "expected '('")
  | _, _ => some (hard.getD "invalid syntax")

end Einsum.Lexis
