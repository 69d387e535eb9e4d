import Einsum.Label

/-!
Contracting two tensors out of a list: which labels are summed and which remain.
-/

namespace Einsum

/-- The labels of two contracted tensors, those reduced away and those that remain. -/
structure Split where
  summed : Group
  residual : Group
deriving DecidableEq, Repr

/-- A label remains if it is needed later; the remaining ones keep the order of first appearance. -/
def split (left right needed : Group) : Split :=
  let union := firsts (left ++ right)
  ⟨sortLabels (union.filter (· ∉ needed)), union.filter (· ∈ needed)⟩

def others {α : Type} (live : List α) (i j : Int) : List α :=
  (live.zipIdx.filter fun (_, k) => (k : Int) ≠ i ∧ (k : Int) ≠ j).map Prod.fst

/-- What the result and the tensors not contracted still need. -/
def needed (live : List Group) (i j : Int) (output : Group) : Group :=
  output ++ (others live i j).flatten

def splitAt (output : Group) (live : List Group) (i j : Nat) : Split :=
  split (live.getD i []) (live.getD j []) (needed live i j output)

def replacePair {α : Type} (live : List α) (i j : Nat) (a : α) : List α := (live.set i a).eraseIdx j

def contractAt (output : Group) (live : List Group) (i j : Nat) : List Group :=
  replacePair live i j (splitAt output live i j).residual

end Einsum
