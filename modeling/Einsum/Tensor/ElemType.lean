import Einsum.Number.Power

/-!
Element types of arrays and how two of them combine.
-/

namespace Einsum

inductive Width where
  | w8
  | w16
  | w32
  | w64
deriving DecidableEq, Repr

namespace Width

def bits : Width → Nat
  | w8 => 8
  | w16 => 16
  | w32 => 32
  | w64 => 64

def max (a b : Width) : Width := if a.bits ≤ b.bits then b else a

def next? : Width → Option Width
  | w8 => some w16
  | w16 => some w32
  | w32 => some w64
  | w64 => none

end Width

structure IntType where
  signed : Bool
  width : Width
deriving DecidableEq, Repr

def int64 : IntType := ⟨true, .w64⟩

inductive ElemType where
  | bool
  | int (t : IntType)
  | float32
  | float64
  | object
deriving DecidableEq, Repr

namespace IntType

def name (t : IntType) : String := (if t.signed then "int" else "uint") ++ toString t.width.bits

def low (t : IntType) : Int := if t.signed then -twoPow (t.width.bits - 1) else 0

def high (t : IntType) : Int :=
  (if t.signed then twoPow (t.width.bits - 1) else twoPow t.width.bits) - 1

def holds (t : IntType) (n : Int) : Bool := t.low ≤ n && n ≤ t.high

/-- The value of the type that agrees with an integer modulo two to the width. -/
def wrap (t : IntType) (n : Int) : Int :=
  if t.signed then Int.bmod n (twoPow t.width.bits) else n % twoPow t.width.bits

/-- The smallest type that holds both; a signed type with an unsigned one of 64 bits gives none. -/
def promote (a b : IntType) : ElemType :=
  if a.signed = b.signed then .int ⟨a.signed, a.width.max b.width⟩
  else
    let (s, u) := if a.signed then (a, b) else (b, a)
    if u.width.bits < s.width.bits then .int s
    else match u.width.next? with
      | some w => .int ⟨true, w⟩
      | none => .float64

end IntType

namespace ElemType

def ints : List ElemType :=
  [.int ⟨true, .w8⟩, .int ⟨false, .w8⟩, .int ⟨true, .w16⟩, .int ⟨false, .w16⟩,
   .int ⟨true, .w32⟩, .int ⟨false, .w32⟩, .int ⟨true, .w64⟩, .int ⟨false, .w64⟩]

/-- All types in ascending order. -/
def all : List ElemType := .bool :: ints ++ [.float32, .float64, .object]

def name : ElemType → String
  | bool => "bool"
  | int t => t.name
  | float32 => "float32"
  | float64 => "float64"
  | object => "object"

def byteCount : ElemType → Nat
  | bool => 1
  | int t => t.width.bits / 8
  | float32 => 4
  | _ => 8

def ofName? (name : String) : Option ElemType := all.find? (·.name = name)

def promote : ElemType → ElemType → ElemType
  | object, _ | _, object => object
  | bool, t | t, bool => t
  | int a, int b => a.promote b
  | float64, _ | _, float64 => float64
  | float32, float32 => float32
  | float32, int t | int t, float32 => if t.width.bits ≤ 16 then float32 else float64

def index (t : ElemType) : Nat := all.idxOf t

def greatest : List ElemType → ElemType
  | [] => bool
  | t :: ts =>
    let u := greatest ts
    if u.index ≤ t.index then t else u

/-- The type of an array computed from operands of given types: each is combined with the greatest
of them first. Without operands it is `float64`. -/
def common (ts : List ElemType) : ElemType :=
  match ts with
  | [] => float64
  | ts =>
    let main := greatest ts
    (ts.map main.promote).foldl promote main

end ElemType

end Einsum
