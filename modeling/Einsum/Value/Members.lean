import Einsum.Value.Identity

/-!
The order in which the members of a set are listed. Members stand in a table, at the place that a
word leads to, for a number its remainder modulo a large prime; a place that is taken leads on to
others. The table grows when it is three fifths full.
-/

namespace Einsum

def remainderBits : Nat := 61

def remainderModulus : Nat := twoPow remainderBits - 1

def twoPowRemainder (q : Int) : Nat := twoPow (q % remainderBits).toNat

/-- A signed remainder as a word; minus one is taken for minus two. -/
def remainderWord (negative : Bool) (r : Nat) : Nat :=
  if negative ∧ r ≠ 0 then twoPow 64 - (if r = 1 then 2 else r) else r

def NumberIdentity.remainder : NumberIdentity → Nat
  | finite d => remainderWord (d.m < 0) (d.m.natAbs * twoPowRemainder d.q % remainderModulus)
  | infinite negative => remainderWord negative 314159
  | none => 0

/-- The word of a tuple, into which the words of its items are mixed one after the other. -/
def tupleWord (words : List Nat) : Nat :=
  let start : UInt64 := 2870177450012600261
  let mixed := words.foldl (fun (sum : UInt64) w =>
    let sum := sum + .ofNat w * 14029467366897019727
    ((sum <<< 31) ||| (sum >>> 33)) * 11400714785074694791) start
  let word := mixed + (.ofNat words.length ^^^ (start ^^^ 3527539))
  if word.toNat + 1 = twoPow 64 then 1546275796 else word.toNat

mutual

def Value.word? : Value → Option Nat
  | .json v => v.number?.map NumberIdentity.remainder
  | .scalar x => x.number?.map NumberIdentity.remainder
  | .tuple items => (valueWords? items).map tupleWord
  | _ => none

def valueWords? : List Value → Option (List Nat)
  | [] => some []
  | v :: vs =>
    match v.word?, valueWords? vs with
    | some w, some ws => some (w :: ws)
    | _, _ => none

end

abbrev Slots := Array (Option (Nat × Value))

namespace Slots

def isFree (slots : Slots) (k : Nat) : Bool := ((slots[k]?).getD none).isNone

def neighbours : Nat := 9

def search (slots : Slots) : Nat → Nat → Nat → Nat
  | 0, k, _ => k
  | fuel + 1, k, rest =>
    let span := if k + neighbours < slots.size then neighbours else 0
    match (List.range (span + 1)).find? fun d => slots.isFree (k + d) with
    | some d => k + d
    | none => slots.search fuel ((k * 5 + 1 + rest / 32) % slots.size) (rest / 32)

def put (slots : Slots) (entry : Nat × Value) : Slots :=
  slots.setIfInBounds (slots.search (slots.size + 64) (entry.1 % slots.size) entry.1) (some entry)

def members (slots : Slots) : List (Nat × Value) := slots.toList.filterMap id

def sizeBeyond : Nat → Nat → Nat → Nat
  | 0, _, size => size
  | fuel + 1, n, size => if size ≤ n then sizeBeyond fuel n (2 * size) else size

def grow (slots : Slots) : Slots :=
  let size := sizeBeyond 64 (4 * slots.members.length) 8
  slots.members.foldl put (Array.replicate size none)

def insert (slots : Slots) (entry : Nat × Value) : Slots :=
  let slots := slots.put entry
  if (slots.size - 1) * 3 ≤ slots.members.length * 5 then slots.grow else slots

end Slots

/-- The members of a set in order, each once; if some have no word, all keep their order. -/
def Value.setOf (members : List Value) : Except Error Value := do
  let distinct ← Value.distinct members
  match distinct.mapM fun v => v.word?.map fun w => (w, v) with
  | some entries =>
    let slots : Slots := entries.foldl Slots.insert (Array.replicate 8 none)
    return .set (slots.members.map Prod.snd)
  | none => return .set distinct

end Einsum
