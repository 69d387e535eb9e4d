/-!
Powers of two and of ten.
-/

namespace Einsum

def twoPow (n : Nat) : Nat := Nat.pow 2 n

def tenPow (n : Nat) : Nat := Nat.pow 10 n

def isWord (n : Int) : Bool := -twoPow 63 ≤ n && n < twoPow 63

end Einsum
