import Einsum.Text.Blank
import Einsum.Text.Digit
import Einsum.Text.Quoted

/-!
Integers written in text: blanks around, an optional sign, decimal digits of any script with single
underscores between them.
-/

namespace Einsum.Text

inductive IntegerError where
  | malformed
  | tooLong (digits : Nat)
deriving DecidableEq, Repr

def maxDigits : Nat := 4300

/-- The information separators are blank, but not around a number. -/
def isNumberBlank (c : Char) : Bool := isBlank c && !(0x1c ≤ c.toNat && c.toNat ≤ 0x1f)

/-- The digits at the front of a text and what follows them; `none` if an underscore is not followed
by a digit. -/
def scanDigits : List Char → Option (List Nat × List Char)
  | [] => some ([], [])
  | '_' :: cs =>
    match cs with
    | [] => none
    | c :: _ => if (digitValue? c).isSome then scanDigits cs else none
  | c :: cs =>
    match digitValue? c with
    | some d => (scanDigits cs).map fun (ds, rest) => (d :: ds, rest)
    | none => some ([], c :: cs)

def ofDigits (ds : List Nat) : Nat := ds.foldl (fun n d => 10 * n + d) 0

def readMagnitude (cs : List Char) : Except IntegerError Nat :=
  match cs with
  | [] => .error .malformed
  | c :: _ =>
    if (digitValue? c).isNone then .error .malformed
    else match scanDigits cs with
      | none => .error .malformed
      | some (ds, rest) =>
        if ds.length > maxDigits then .error (.tooLong ds.length)
        else if rest.all isNumberBlank then .ok (ofDigits ds)
        else .error .malformed

def readInteger (s : String) : Except IntegerError Int :=
  match s.toList.dropWhile isNumberBlank with
  | '-' :: cs => (readMagnitude cs).map fun n => -(n : Int)
  | '+' :: cs => (readMagnitude cs).map fun n => (n : Int)
  | cs => (readMagnitude cs).map fun n => (n : Int)

def IntegerError.message (s : String) : IntegerError → String
  | .malformed =>
    "invalid literal for int() with base 10: " ++ String.ofList ((quoteChars s.toList).take 200)
  | .tooLong digits =>
    s!"Exceeds the limit ({maxDigits} digits) for integer string conversion: value has {digits} " ++
      "digits; use sys.set_int_max_str_digits() to increase the limit"

end Einsum.Text
