import Einsum.Number.Binary
import Einsum.Text.Integer

/-!
Real numbers written in text: blanks around, an optional sign, decimal digits of any script with
single underscores between them, a decimal point, an exponent; or the names of infinity and of what
is no number.
-/

namespace Einsum.Text

/-- The digits at the front of a text, perhaps none, and what follows them. -/
def takeNumeral (cs : List Char) : Option (List Nat × List Char) :=
  match cs with
  | c :: _ => if (digitValue? c).isSome then scanDigits cs else some ([], cs)
  | [] => some ([], [])

def takeSign : List Char → Bool × List Char
  | '-' :: cs => (true, cs)
  | '+' :: cs => (false, cs)
  | cs => (false, cs)

/-- An exponent at the front of a text, zero if there is none, and what follows it. -/
def takeExponent (cs : List Char) : Option (Int × List Char) :=
  match cs with
  | e :: rest =>
    if e == 'e' || e == 'E' then
      let (negative, rest) := takeSign rest
      match takeNumeral rest with
      | none | some ([], _) => none
      | some (ds, rest) => some (if negative then -(ofDigits ds : Int) else ofDigits ds, rest)
    else some (0, cs)
  | [] => some (0, [])

def readDecimal (cs : List Char) : Option (Nat × Int) := do
  let (whole, rest) ← takeNumeral cs
  let (fraction, rest) ← match rest with
    | '.' :: rest => takeNumeral rest
    | rest => some ([], rest)
  let (exponent, rest) ← takeExponent rest
  if (whole ++ fraction).isEmpty || !rest.isEmpty then none
  else some (ofDigits (whole ++ fraction), exponent - fraction.length)

def readReal (s : String) : Option Nat :=
  let trimmed := ((s.toList.dropWhile isNumberBlank).reverse.dropWhile isNumberBlank).reverse
  let (negative, cs) := takeSign trimmed
  let f := Number.binary64
  let sign := if negative then f.signBit else 0
  match String.ofList (cs.map Char.toLower) with
  | "inf" | "infinity" => some (f.infinity + sign)
  | "nan" => some (f.infinity + 1)
  | _ => (readDecimal cs).map fun (digits, exponent) => f.ofDecimal digits exponent + sign

end Einsum.Text
