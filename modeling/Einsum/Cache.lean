import Einsum.Kernel.Basic

/-!
Kernels kept under keys, so that operations of one pattern share one kernel.
-/

namespace Einsum

/-- Entries in the order in which they were made, and how often a kernel was found or had to be
made. -/
structure Cache where
  entries : List (String × Kernel) := []
  hits : Nat := 0
  misses : Nat := 0
deriving DecidableEq, Repr

namespace Cache

variable (c : Cache)

def size : Nat := c.entries.length

def get? (key : String) : Option Kernel := c.entries.lookup key

def contains (key : String) : Bool := (c.get? key).isSome

def kernels : List Kernel := c.entries.map Prod.snd

def hit : Cache := { c with hits := c.hits + 1 }

def insert (key : String) (k : Kernel) : Cache :=
  { c with entries := c.entries ++ [(key, k)], misses := c.misses + 1 }

/-- The kernel under a key, made if there is none, and whether it was there. If making it fails, so
does the look-up. -/
def obtain (key : String) (make : Except Error Kernel) : Except Error (Kernel × Bool × Cache) :=
  match c.get? key with
  | some k => .ok (k, true, c.hit)
  | none => make.map fun k => (k, false, c.insert key k)

end Cache

end Einsum
