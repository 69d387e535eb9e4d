import Einsum.Operand

/-!
Sessions: expressions compiled under one configuration, which share kernels and are compiled once
each.
-/

namespace Einsum

structure Session where
  config : Config := {}
  cache : Cache := {}
  diagnostics : List Diagnostic := []
  programs : List ((String × Int) × Program) := []
  /-- How many kernels and programs were made, in all sessions before too. -/
  made : Nat := 0
deriving DecidableEq, Repr

structure Origin where
  file : Option String := none
  line : Option Int := none
deriving DecidableEq, Repr

def Origin.attach (origin : Origin) (text : String) : Error → Error
  | .report r =>
    match origin with
    | ⟨none, none⟩ => .report r
    | ⟨file, line⟩ => .report { r with site := some ⟨text, file, line⟩ }
  | e => e

namespace Session

variable (s : Session)

def reset : Session := { config := s.config, made := s.made }

def compile (text : String) (operands : Int) (origin : Origin := {}) :
    Except Error Program × Session :=
  match s.programs.lookup (text, operands) with
  | some p => (.ok p, s)
  | none =>
    let (result, pool) := Pool.compile ⟨some s.cache, s.made⟩ s.config text operands
    let s := { s with cache := pool.cache.getD s.cache, made := pool.made }
    match result with
    | .error e => (.error (origin.attach text e), s)
    | .ok p => (.ok p, { s with programs := s.programs ++ [((text, operands), p)] })

inductive Outcome where
  | compiled (p : Program)
  | failed (d : Diagnostic)

def attempt (text : String) (operands : Int) (origin : Origin := {}) :
    Except Error Outcome × Session :=
  match s.compile text operands origin with
  | (.ok p, s) => (.ok (.compiled p), s)
  | (.error (.report r), s) =>
    let d := Diagnostic.ofReport r
    (.ok (.failed d), { s with diagnostics := s.diagnostics ++ [d] })
  | (.error e, s) => (.error e, s)

/-- Compile an expression for the operands at hand and evaluate it on them. -/
def einsum (text : String) (operands : List Operand) : Except Error (Tensor Scalar) × Session :=
  match s.compile text operands.length with
  | (.error e, s) => (.error e, s)
  | (.ok p, s) => (p.call operands, s)

end Session

def subscriptText : Json → Except Error String
  | .text s => .ok s
  | v => .error (.notText v.typeName)

/-- The text of subscripts that are looked up first, which lists and objects cannot be. -/
def subscriptKey : Json → Except Error String
  | v@(.list _) | v@(.object _) => .error (.notHashable v.typeName)
  | v => subscriptText v

end Einsum
