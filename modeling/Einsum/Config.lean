import Einsum.Json.Integer
import Einsum.Text.Identifier

/-!
Settings as they are given, and the configuration they amount to.
-/

namespace Einsum

inductive Strategy where
  | greedy
  | exhaustive
deriving DecidableEq, Repr

def Strategy.name : Strategy → String
  | greedy => "greedy"
  | exhaustive => "exhaustive"

def Strategy.ofName? (name : String) : Option Strategy :=
  if name = "greedy" then some .greedy
  else if name = "exhaustive" then some .exhaustive
  else none

structure Config where
  strategy : Strategy := .greedy
  /-- With more operands than this the exhaustive strategy gives way to the greedy one. -/
  operandLimit : Int := 6
  /-- Are matrix products, diagonals and traces lowered in ways of their own? -/
  specialCases : Bool := true
  cacheKernels : Bool := true
  kernelPrefix : String := "_einsum_"
deriving DecidableEq, Repr

structure Settings where
  strategy : Json := .text "greedy"
  operandLimit : Json := .int 6
  specialCases : Json := .bool true
  cacheKernels : Json := .bool true
  kernelPrefix : Json := .text "_einsum_"

namespace Settings

def set (s : Settings) (name : String) (v : Json) : Except Error Settings :=
  match name with
  | "strategy" => .ok { s with strategy := v }
  | "max_exhaustive_operands" => .ok { s with operandLimit := v }
  | "special_cases" => .ok { s with specialCases := v }
  | "cache_kernels" => .ok { s with cacheKernels := v }
  | "kernel_prefix" => .ok { s with kernelPrefix := v }
  | name => .error (.unexpectedSetting name)

def ofFields (fields : List (String × Json)) : Except Error Settings :=
  fields.foldlM (fun s (name, v) => s.set name v) {}

/-- The strategy by name in letters of either case; a value that counts as false means the greedy
one. The names consist of letters that no letter outside ASCII has as its lower case. -/
def strategyOf (v : Json) : Except Error Strategy :=
  if !v.truth then .ok .greedy
  else match v with
    | .text s =>
      match Strategy.ofName? (s.map Char.toLower) with
      | some strategy => .ok strategy
      | none => .error (.unknownStrategy s)
    | v => .error (.noAttribute v.typeName "lower")

def isUsablePrefix (s : String) : Bool := Text.isIdentifier (s.toList ++ ['x'])

def normalize (s : Settings) : Except Error Config := do
  let strategy ← strategyOf s.strategy
  let operandLimit ← s.operandLimit.toInteger
  if operandLimit < 2 then
    throw .operandLimit
  let kernelPrefix := s.kernelPrefix.display
  if !isUsablePrefix kernelPrefix then
    throw (.unusablePrefix s.kernelPrefix.literal)
  return {
    strategy, operandLimit, kernelPrefix
    specialCases := s.specialCases.truth
    cacheKernels := s.cacheKernels.truth }

end Settings

end Einsum
