import Einsum.Number.Decimal

/-!
Numerals of floating-point values with the fewest digits: positional from `0.0001` up to a power of
ten, scientific otherwise.
-/

namespace Einsum.Number

/-- Digits with the decimal point after `places` of them, at least one digit before the point. -/
def pointed (digits : List Char) (places : Int) : List Char × List Char :=
  if places ≤ 0 then (['0'], List.replicate (-places).toNat '0' ++ digits)
  else
    let whole := digits.take places.toNat
    (whole ++ List.replicate (places.toNat - digits.length) '0', digits.drop places.toNat)

def exponentText (width : Nat) (e : Int) : List Char :=
  let digits := Nat.toDigits 10 e.natAbs
  (if e < 0 then '-' else '+') :: List.replicate (width - digits.length) '0' ++ digits

def Decimal.literal (d : Decimal) (positional : Bool) : List Char :=
  let digits := d.numeral
  let places := d.leading + 1
  if positional then
    let (whole, fraction) := pointed digits places
    whole ++ '.' :: (if fraction.isEmpty then ['0'] else fraction)
  else
    let fraction := digits.drop 1
    digits.take 1 ++ (if fraction.isEmpty then [] else '.' :: fraction) ++
      'e' :: exponentText 2 (places - 1)

structure Style where
  infinity : String
  undefined : String
  /-- Values below this power of ten are written without an exponent. -/
  digits : Nat

/-- Is the value `m * 2 ^ q` zero, or neither below `0.0001` nor too large? -/
def Style.isPositional (s : Style) (m : Nat) (q : Int) : Bool :=
  let (n, d) := quotientOf m q
  m = 0 || (powerLe (-4) n d && !powerLe s.digits n d)

def signed (negative : Bool) (s : String) : String := if negative then "-" ++ s else s

def Format.literal (f : Format) (style : Style) (word : Nat) : String :=
  match f.decode word with
  | .undefined => style.undefined
  | .infinite negative => signed negative style.infinity
  | .finite negative m q =>
    signed negative (String.ofList ((f.shortest m q).literal (style.isPositional m q)))

def plainStyle : Style := ⟨"inf", "nan", 16⟩

def singleStyle : Style := { plainStyle with digits := 6 }

def jsonStyle : Style := ⟨"Infinity", "NaN", 16⟩

end Einsum.Number
