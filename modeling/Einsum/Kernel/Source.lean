import Einsum.Kernel.Basic
import Einsum.Kernel.Prologue

/-!
The source text of kernels.
-/

namespace Einsum

/-- A line at a level of indentation. -/
def line (depth : Nat) (text : String) : String := "".pushn ' ' (4 * depth) ++ text

def commaList (items : List String) : String := ", ".intercalate items

def labelText (l : Label) : String := String.singleton l

def sizeName (l : Label) : String := s!"n_{l}"

def indexText (name : String) (labels : Group) : String :=
  if labels.isEmpty then s!"{name}[()]" else s!"{name}[{commaList (labels.map labelText)}]"

def shapeSource (labels : Group) : String :=
  match labels with
  | [l] => s!"({sizeName l},)"
  | ls => s!"({commaList (ls.map sizeName)})"

def Access.source (x : Access) : String := indexText (operandName x.operand) x.labels

def productSource (factors : List Access) : String := " * ".intercalate (factors.map Access.source)

def resultName : String := "out"

def Statement.source : Statement → String
  | clear => "acc = 0"
  | accumulate factors => s!"acc += {productSource factors}"
  | flush target => s!"{indexText resultName target} = acc"
  | assign target factors => s!"{indexText resultName target} = {productSource factors}"
  | hold factor => s!"lhs = {factor.source}"
  | addHeld target factor => s!"{indexText resultName target} += lhs * {factor.source}"

def rangeSource (l : Label) : String := s!"range({sizeName l})"

def loopHeader (labels : Group) : String :=
  match labels with
  | [l] => s!"for {l} in {rangeSource l}:"
  | ls => s!"for {commaList (ls.map labelText)} in _product({commaList (ls.map rangeSource)}):"

def Block.source (depth : Nat) : Block → List String
  | atom s => [line depth s.source]
  | seq b c => b.source depth ++ c.source depth
  | loop labels b => line depth (loopHeader labels) :: b.source (depth + 1)

def Check.source : Check → String
  | rank operand group =>
    let name := operandName operand
    s!"_rank({name}, {group.length}, {Text.quote name}, {Text.quote group.text}, labels)"
  | bind l operand axis => s!"{sizeName l} = {operandName operand}.shape[{axis}]"
  | agree l operand axis =>
    let name := operandName operand
    let quoted := Text.quote (labelText l)
    s!"_dim(labels, {quoted}, {sizeName l}, {name}.shape[{axis}], {Text.quote name}, {axis})"

def Subscripts.operandNames (s : Subscripts) : List String :=
  (List.range s.inputs.length).map operandName

namespace Kernel

def header (k : Kernel) : String :=
  s!"def {k.name}({commaList k.pattern.operandNames}, labels):"

def allocation (k : Kernel) : String :=
  s!"{resultName} = _zeros({shapeSource k.pattern.output}, {commaList k.pattern.operandNames})"

def lines (k : Kernel) : List String :=
  [k.header, line 1 s!"# {k.kind.name}: {k.pattern}"] ++
    (prologue k.pattern.inputs).map (fun c => line 1 c.source) ++
    [line 1 k.allocation] ++ k.body.source 1 ++ [line 1 s!"return {resultName}"]

def source (k : Kernel) : String := "\n".intercalate k.lines ++ "\n"

end Kernel

end Einsum
