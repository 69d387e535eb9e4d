import Einsum.Number.Binary

/-!
Decimal numerals of binary values: the fewest digits that still round to the value, or a fixed
number of digits rounded from the exact value.
-/

namespace Einsum.Number

/-- The number `digits * 10 ^ exponent`. -/
structure Decimal where
  digits : Nat
  exponent : Int
deriving DecidableEq, Repr

namespace Decimal

def zero : Decimal := ⟨0, 0⟩

def trimZeros : Nat → Decimal → Decimal
  | 0, d => d
  | fuel + 1, d =>
    if d.digits ≠ 0 ∧ d.digits % 10 = 0 then trimZeros fuel ⟨d.digits / 10, d.exponent + 1⟩ else d

def numeral (d : Decimal) : List Char := Nat.toDigits 10 d.digits

def leading (d : Decimal) : Int := (d.numeral.length : Int) + d.exponent - 1

end Decimal

def powerLe (k : Int) (n d : Nat) : Bool :=
  if 0 ≤ k then tenPow k.toNat * d ≤ n else d ≤ n * tenPow (-k).toNat

/-- The exponent of the leading decimal digit of a positive quotient. The estimate by binary
logarithms is off by at most one in either direction. -/
def decimalExponent (n d : Nat) : Int :=
  let estimate := (((n.log2 : Int) - d.log2) * 30103).fdiv 100000
  if powerLe (estimate + 1) n d then estimate + 1
  else if powerLe estimate n d then estimate
  else estimate - 1

def inUnits (k : Int) (n d : Nat) : Nat × Nat :=
  if 0 ≤ k then (n, d * tenPow k.toNat) else (n * tenPow (-k).toNat, d)

def quotientOf (m : Nat) (q : Int) : Nat × Nat :=
  if 0 ≤ q then (m * twoPow q.toNat, 1) else (m, twoPow (-q).toNat)

/-- Does the integer `c`, in units of `10 ^ k`, round to the value `m * 2 ^ q`? All is compared in
quarters of the unit in the last place; below a power of two the gap is half as wide. -/
def Format.roundsTo (f : Format) (m : Nat) (q : Int) (k : Int) (c : Nat) : Bool :=
  let (n, d) := quotientOf 1 (q - 2)
  let below := if m = twoPow (f.precision - 1) ∧ f.minExponent < q then 1 else 2
  -- c * 10 ^ k = (x / y) * (n / d)
  let (x, y) := if 0 ≤ k then (c * tenPow k.toNat * d, n) else (c * d, n * tenPow (-k).toNat)
  if m % 2 = 0 then (4 * m - below) * y ≤ x && x ≤ (4 * m + 2) * y
  else (4 * m - below) * y < x && x < (4 * m + 2) * y

/-- The shortest numeral of `count` digits that rounds to the value, the nearer of two. -/
def Format.withDigits? (f : Format) (m : Nat) (q : Int) (count : Nat) : Option Decimal :=
  let (n, d) := quotientOf m q
  let k := decimalExponent n d - (count : Int) + 1
  let (x, y) := inUnits k n d
  let low := x / y
  let nearest := roundDiv x y
  let other := if nearest = low then low + 1 else low
  if f.roundsTo m q k nearest then some ⟨nearest, k⟩
  else if f.roundsTo m q k other then some ⟨other, k⟩
  else none

/-- The fewest digits that round to the value `m * 2 ^ q`; of numerals of that length the
nearest. -/
def Format.shortest (f : Format) (m : Nat) (q : Int) : Decimal :=
  if m = 0 then .zero
  else
    match (List.range 17).findSome? fun k => f.withDigits? m q (k + 1) with
    | some d => d.trimZeros 18
    | none => .zero

/-- The value `m * 2 ^ q` rounded to a multiple of `10 ^ k`, a tie to the even multiple. -/
def roundTo (m : Nat) (q k : Int) : Decimal :=
  let (n, d) := quotientOf m q
  let (x, y) := inUnits k n d
  ⟨roundDiv x y, k⟩

end Einsum.Number
