/-!
Numbers in a source text: where one ends, and why it is none.
-/

namespace Einsum.Numeral

structure Radix where
  name : String
  isDigit : Char → Bool

def decimal : Radix := ⟨"decimal", Char.isDigit⟩

def binary : Radix := ⟨"binary", fun c => c == '0' || c == '1'⟩

def octal : Radix := ⟨"octal", fun c => '0' ≤ c && c ≤ '7'⟩

def hexadecimal : Radix :=
  ⟨"hexadecimal", fun c => c.isDigit || ('a' ≤ c && c ≤ 'f') || ('A' ≤ c && c ≤ 'F')⟩

def Radix.ofLetter? (c : Char) : Option Radix :=
  match c.toLower with
  | 'x' => some hexadecimal
  | 'o' => some octal
  | 'b' => some binary
  | _ => none

def invalid (name : String) : String := s!"invalid {name} literal"

/-- The text after a run of digits, in which single underscores may stand between two digits. -/
def digitsEnd (r : Radix) (needsDigit : Bool) : List Char → Except String (List Char)
  | [] => if needsDigit then .error (invalid r.name) else .ok []
  | c :: cs =>
    if r.isDigit c then digitsEnd r false cs
    else if c == '_' && !needsDigit then digitsEnd r true cs
    else if c.isDigit then .error s!"invalid digit '{c}' in {r.name} literal"
    else if needsDigit then .error (invalid r.name)
    else .ok (c :: cs)

/-- Words of an expression that may follow a number without a blank, as far as they are looked
at. -/
def followers : List String := ["and", "else", "for", "if", "in", "is", "or", "not"]

def numberEnd (name : String) (cs : List Char) : Except String (List Char) :=
  match cs with
  | c :: _ =>
    let isNamePart := c.isAlphanum || c == '_' || 0x80 ≤ c.toNat
    if isNamePart && !followers.any fun w => w.toList.isPrefixOf cs then .error (invalid name)
    else .ok cs
  | [] => .ok cs

def markEnd (cs : List Char) : Except String (List Char) :=
  match cs with
  | c :: rest => if c.toLower == 'j' then numberEnd "imaginary" rest else numberEnd decimal.name cs
  | [] => .ok cs

def exponentEnd (cs : List Char) : Except String (List Char) :=
  match cs with
  | e :: d :: rest =>
    if e.toLower != 'e' then markEnd cs
    else if d == '+' || d == '-' then do markEnd (← digitsEnd decimal true rest)
    else if d.isDigit then do markEnd (← digitsEnd decimal false rest)
    else numberEnd decimal.name cs
  | _ => markEnd cs

def fractionEnd (cs : List Char) : Except String (List Char) :=
  match cs with
  | c :: rest =>
    if c.isDigit then do exponentEnd (← digitsEnd decimal false rest) else exponentEnd cs
  | [] => .ok cs

def leadingZeros : String :=
  "leading zeros in decimal integer literals are not permitted; use an 0o prefix for octal integers"

def endAfter (first : Char) (cs : List Char) : Except String (List Char) :=
  match cs with
  | x :: y :: rest =>
    match if first == '0' then Radix.ofLetter? x else none with
    | some r => do numberEnd r.name (← digitsEnd r true (if y == '_' then rest else y :: rest))
    | none => plain
  | _ => plain
where
  plain : Except String (List Char) := do
    let rest ← digitsEnd decimal false cs
    let isPadded := first == '0' &&
      (cs.take (cs.length - rest.length)).any fun c => c != '0' && c != '_'
    match rest with
    | '.' :: rest => fractionEnd rest
    | c :: _ =>
      if isPadded && c.toLower != 'e' && c.toLower != 'j' then throw leadingZeros
      else exponentEnd rest
    | [] => return rest

end Einsum.Numeral
