/-!
Labels and groups of labels: order of first appearance, sorting and counting.
-/

namespace Einsum

abbrev Label := Char

abbrev Group := List Label

section

variable {α : Type} [DecidableEq α]

/-- The distinct members of a list in the order of their first appearance. -/
def firsts : List α → List α
  | [] => []
  | a :: as => a :: (firsts as).filter (· ≠ a)

/-- The members that occur more than once, in the order of their first appearance. -/
def repeated (as : List α) : List α := (firsts as).filter fun a => 1 < as.count a

end

section

variable {α : Type} (le : α → α → Bool)

def insertOrdered (a : α) : List α → List α
  | [] => [a]
  | b :: bs => if le a b then a :: b :: bs else b :: insertOrdered a bs

/-- A list put in order; what compares equal keeps its order. -/
def sorted : List α → List α
  | [] => []
  | a :: as => insertOrdered le a (sorted as)

end

def sortLabels (g : Group) : Group := sorted (fun a b => decide (a ≤ b)) g

def Group.text (g : Group) : String := String.ofList g

end Einsum
