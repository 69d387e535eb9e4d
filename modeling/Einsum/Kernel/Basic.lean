import Einsum.Kernel.Body

/-!
Kernels: named loop nests for patterns of subscripts.
-/

namespace Einsum

structure Kernel where
  /-- Tells apart kernels that were emitted separately. -/
  serial : Nat
  name : String
  kind : KernelKind
  pattern : Subscripts
  body : Block
deriving DecidableEq, Repr

namespace Kernel

def nameOf (pattern : Subscripts) (namePrefix : String) : String := namePrefix ++ pattern.identifier

/-- The key under which a kernel is cached: all that its name and its body depend on. -/
def key (pattern : Subscripts) (kind : KernelKind) (namePrefix : String) : String :=
  s!"{kind.name}:{nameOf pattern namePrefix}:{pattern}"

def emit (serial : Nat) (pattern : Subscripts) (kind : KernelKind) (namePrefix : String) :
    Except Error Kernel :=
  (kernelBody pattern kind).map fun body =>
    ⟨serial, nameOf pattern namePrefix, kind, pattern, body⟩

end Kernel

end Einsum
