import Einsum.Number.Power

/-!
Binary floating-point formats, as words of bits. A finite value is `m * 2 ^ q` with an integer
significand `m`; rounding goes to the nearest value, a tie to the even significand.
-/

namespace Einsum.Number

/-- A format with `precision` significant bits and `exponentBits` bits for the exponent. -/
structure Format where
  precision : Nat
  exponentBits : Nat
deriving DecidableEq, Repr

def binary32 : Format := ⟨24, 8⟩

def binary64 : Format := ⟨53, 11⟩

namespace Format

variable (f : Format)

def minExponent : Int := 3 - twoPow (f.exponentBits - 1) - f.precision

def specialField : Nat := twoPow f.exponentBits - 1

def infinity : Nat := f.specialField * twoPow (f.precision - 1)

def signBit : Nat := twoPow (f.precision - 1 + f.exponentBits)

end Format

inductive Decoded where
  | finite (negative : Bool) (significand : Nat) (exponent : Int)
  | infinite (negative : Bool)
  | undefined
deriving DecidableEq, Repr

def Format.decode (f : Format) (word : Nat) : Decoded :=
  let negative := decide (f.signBit ≤ word)
  let fraction := word % twoPow (f.precision - 1)
  let field := word / twoPow (f.precision - 1) % twoPow f.exponentBits
  if field = f.specialField then
    if fraction = 0 then .infinite negative else .undefined
  else if field = 0 then .finite negative fraction f.minExponent
  else .finite negative (twoPow (f.precision - 1) + fraction) (f.minExponent + field - 1)

/-- The integer nearest to a quotient, the even one of two. -/
def roundDiv (n d : Nat) : Nat :=
  let k := n / d
  let r := n % d
  if d < 2 * r ∨ (d = 2 * r ∧ k % 2 = 1) then k + 1 else k

def scaleDown (n d : Nat) (q : Int) : Nat × Nat :=
  if 0 ≤ q then (n, d * twoPow q.toNat) else (n * twoPow (-q).toNat, d)

/-- The word of the value nearest to `n / d`; infinity if that exceeds all finite values. -/
def Format.roundQuotient (f : Format) (n d : Nat) : Nat :=
  if n = 0 then 0
  else
    let estimate : Int := (n.log2 : Int) - d.log2 - f.precision
    let low := max f.minExponent estimate
    let (n₁, d₁) := scaleDown n d low
    let q := if twoPow f.precision ≤ n₁ / d₁ then low + 1 else low
    let (n₂, d₂) := scaleDown n d q
    let m := roundDiv n₂ d₂
    if m < twoPow (f.precision - 1) then m
    else
      -- a significand that rounds up to the next power of two carries into the exponent field
      let word := (q - f.minExponent).toNat * twoPow (f.precision - 1) + m
      min word f.infinity

def Format.ofInt (f : Format) (n : Int) : Nat :=
  (if n < 0 then f.signBit else 0) + f.roundQuotient n.natAbs 1

def Format.ofDecimal (f : Format) (digits : Nat) (exponent : Int) : Nat :=
  let size : Int := (Nat.toDigits 10 digits).length + exponent
  if digits = 0 ∨ size < -400 then 0
  else if size > 400 then f.infinity
  else if 0 ≤ exponent then f.roundQuotient (digits * tenPow exponent.toNat) 1
  else f.roundQuotient digits (tenPow (-exponent).toNat)

def truncate (negative : Bool) (significand : Nat) (exponent : Int) : Int :=
  let magnitude : Nat :=
    if 0 ≤ exponent then significand * twoPow exponent.toNat
    else significand / twoPow (-exponent).toNat
  if negative then -(magnitude : Int) else magnitude

end Einsum.Number
