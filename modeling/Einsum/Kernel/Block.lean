import Einsum.Label
import Einsum.Tensor.Basic

/-!
Loop nests over tensors: their statements and what running them does. Runs have all the memory they
need: a loop over tuples keeps the whole range of each of its labels, and a run that has no room for
the ranges of large labels is left out here.
-/

namespace Einsum

structure Access where
  operand : Nat
  labels : Group
deriving DecidableEq, Repr

inductive Statement where
  | clear
  | accumulate (factors : List Access)
  | flush (target : Group)
  | assign (target : Group) (factors : List Access)
  /-- An element is held for the loops inside. -/
  | hold (factor : Access)
  /-- The held element times another is added in the result. -/
  | addHeld (target : Group) (factor : Access)
deriving DecidableEq, Repr

/-- A loop with several labels runs over all tuples of values, the last label fastest. -/
inductive Block where
  | atom (s : Statement)
  | seq (first second : Block)
  | loop (labels : Group) (body : Block)
deriving DecidableEq, Repr

def nest (labels : Group) (body : Block) : Block := labels.foldr (fun l b => .loop [l] b) body

/-- Loops over labels: nested, or flattened into one loop over tuples. -/
def loops (flat : Bool) (labels : Group) (body : Block) : Block :=
  if flat && 2 ≤ labels.length then .loop labels body else nest labels body

def Block.depth : Block → Nat
  | atom _ => 0
  | seq b c => max b.depth c.depth
  | loop _ b => b.depth + 1

/-- All tuples of numbers below given bounds, in lexicographic order. -/
def tuples : List Nat → List (List Nat)
  | [] => [[]]
  | n :: ns =>
    let rest := tuples ns
    (List.range n).flatMap fun i => rest.map (i :: ·)

abbrev Assignment := Label → Nat

/-- Labels bound to new values; of two bindings of a label the later counts. -/
def Assignment.bind (a : Assignment) : Group → List Nat → Assignment
  | l :: ls, n :: ns => Assignment.bind (fun m => if m = l then n else a m) ls ns
  | _, _ => a

structure Store (α : Type) where
  accumulator : α
  held : α
  result : Tensor α
  failure : Option Error := none

section

variable {α : Type} (ops : Arithmetic α) (operands : List (Tensor α))

def Access.read (a : Assignment) (x : Access) : α :=
  match operands[x.operand]? with
  | some t => t.get ops.literalZero (x.labels.map a)
  | none => ops.literalZero

def product (a : Assignment) : List Access → α
  | [] => ops.literalZero
  | x :: xs => xs.foldl (fun p y => ops.mul p (y.read ops operands a)) (x.read ops operands a)

def Store.write (s : Store α) (index : List Nat) (v : α) : Store α :=
  { s with result := s.result.set index (ops.store s.result.type v) }

def Store.note (s : Store α) (v : α) : Store α := { s with failure := s.failure.or (ops.fault? v) }

def Statement.run (a : Assignment) (s : Store α) : Statement → Store α
  | clear => { s with accumulator := ops.literalZero }
  | accumulate factors =>
    let sum := ops.add s.accumulator (product ops operands a factors)
    { s with accumulator := sum }.note ops sum
  | flush target => s.write ops (target.map a) s.accumulator
  | assign target factors =>
    let value := product ops operands a factors
    (s.write ops (target.map a) value).note ops value
  | hold factor => { s with held := factor.read ops operands a }
  | addHeld target factor =>
    let index := target.map a
    let sum := ops.add (s.result.get ops.literalZero index)
      (ops.mul s.held (factor.read ops operands a))
    (s.write ops index sum).note ops sum

def Block.run (sizes : Assignment) : Block → Assignment → Store α → Store α
  | atom st, a, s => st.run ops operands a s
  | seq b c, a, s => c.run sizes a (b.run sizes a s)
  | loop labels b, a, s =>
    (tuples (labels.map sizes)).foldl (fun s ns => b.run sizes (a.bind labels ns) s) s

end

/-- A digit as a label stands for a fixed index. -/
def digitIndex? (l : Label) : Option Nat := if l.isDigit then some (l.toNat - '0'.toNat) else none

def Assignment.start : Assignment := fun l => (digitIndex? l).getD 0

section

variable {α : Type} (ops : Arithmetic α)

def Store.start (result : Tensor α) : Store α :=
  { accumulator := ops.literalZero, held := ops.literalZero, result }

def Block.fill (b : Block) (operands : List (Tensor α)) (sizes : Assignment)
    (result : Tensor α) : Store α :=
  b.run ops operands sizes .start (.start ops result)

end

inductive Place where
  | operand (k : Nat)
  | result
deriving DecidableEq, Repr

def Access.place (x : Access) : Place × Group := (.operand x.operand, x.labels)

def Statement.lookups : Statement → List (Place × Group)
  | clear => []
  | accumulate factors => factors.map Access.place
  | flush target => [(.result, target)]
  | assign target factors => factors.map Access.place ++ [(.result, target)]
  | hold factor => [factor.place]
  | addHeld target factor => [(.result, target), factor.place]

/-- Why the labels of an element are no index into an array: a label without a value, or a fixed
index beyond its axis. -/
def indexFault? (bound : Group) (shape : Shape) (labels : Group) : Option Error :=
  match labels.find? fun l => l ∉ bound && (digitIndex? l).isNone with
  | some l => some (.unbound (String.singleton l))
  | none =>
    ((labels.zip shape).zipIdx).findSome? fun ((l, size), axis) =>
      (digitIndex? l).bind fun i => if i < size then none else some (.outOfBounds i axis size)

section

variable (shapeAt : Place → Shape) (sizes : Assignment)

/-- The first fault of an index that a run meets; each index is looked at under the labels of the
loops around it. Loops that run over nothing are not entered. -/
def Block.fault? (bound : Group) : Block → Option Error
  | atom st => st.lookups.findSome? fun (place, labels) => indexFault? bound (shapeAt place) labels
  | seq b c => (b.fault? bound).or (c.fault? bound)
  | loop labels b => if labels.any (sizes · = 0) then none else b.fault? (labels ++ bound)

end

end Einsum
