import Einsum.Span
import Einsum.Subscripts
import Einsum.Text.Quoted

/-!
What can be wrong with an einsum expression, and the report that tells where.
-/

namespace Einsum

inductive FaultKind where
  | malformedSubscripts
  | unsupportedFeature
  | arityMismatch
  | duplicateOutputIndex
  | shapeMismatch
  | generationError
deriving DecidableEq, Repr

namespace FaultKind

def all : List FaultKind :=
  [malformedSubscripts, unsupportedFeature, arityMismatch, duplicateOutputIndex, shapeMismatch,
   generationError]

def name : FaultKind → String
  | malformedSubscripts => "malformed_subscripts"
  | unsupportedFeature => "unsupported_feature"
  | arityMismatch => "arity_mismatch"
  | duplicateOutputIndex => "duplicate_output_index"
  | shapeMismatch => "shape_mismatch"
  | generationError => "generation_error"

def ofName? (name : String) : Option FaultKind := all.find? (·.name = name)

/-- Only a disagreement of shapes waits for the operands. -/
def isStatic (k : FaultKind) : Bool := k ≠ shapeMismatch

end FaultKind

inductive Fault where
  | ellipsis
  | unrecognized (c : Char)
  | misplaced (text : String)
  | emptyGroup (position : Nat)
  | secondArrow
  | unknownOutput (l : Label)
  | arity (expected : Nat) (actual : Int)
  | repeatedOutput (l : Label)
  | rank (operand : String) (group : Group) (expected actual : Int)
  | size (l : Label) (operand : String) (axis : Int) (expected actual : Int)
  | noOrder (s : Subscripts)
  | orderLength (steps operands : Nat)
  | wrongResult (residual output : Group)
  | deadTensor (position : Nat) (step : String) (name : String)
  | selfContraction (position : Nat) (step : String)
  | unknownLabels (position : Nat) (step : String)
  | incomplete (s : Subscripts)
  | notCompilable (kernel pattern cause : String)
  | other (message : String)
deriving DecidableEq, Repr

namespace Fault

def kind : Fault → FaultKind
  | ellipsis => .unsupportedFeature
  | unrecognized _ | misplaced _ | emptyGroup _ | secondArrow | unknownOutput _ =>
    .malformedSubscripts
  | arity _ _ => .arityMismatch
  | repeatedOutput _ => .duplicateOutputIndex
  | rank _ _ _ _ | size _ _ _ _ _ => .shapeMismatch
  | _ => .generationError

def message : Fault → String
  | ellipsis => "Ellipsis '...' broadcasting is not supported"
  | unrecognized c =>
    s!"Unrecognized character {Text.quote (String.singleton c)}; " ++
      "index labels must be lowercase letters a-z"
  | misplaced text => s!"Invalid subscripts '{text}'"
  | emptyGroup position => s!"Index group {position} is empty"
  | secondArrow => "'->' may appear at most once"
  | unknownOutput l => s!"Output index '{l}' does not appear in any input"
  | arity expected actual => s!"Argument number mismatch: subscripts ({expected}), args ({actual})"
  | repeatedOutput l => s!"Output index '{l}' appears more than once"
  | rank operand group expected actual =>
    s!"Operand {operand} has {actual} axes but subscript '{group.text}' expects {expected}"
  | size l operand axis expected actual =>
    s!"Size of index '{l}' disagrees: {expected} vs {actual} (axis {axis} of {operand})"
  | noOrder s => s!"No contraction order found for '{s}'"
  | orderLength steps operands => s!"Contraction order has {steps} steps for {operands} operands"
  | wrongResult residual output =>
    s!"Final step yields '{residual.text}' but the output is '{output.text}'"
  | deadTensor position step name =>
    s!"Step {position} ({step}) reads '{name}' which is not a live tensor"
  | selfContraction position step => s!"Step {position} ({step}) contracts a tensor with itself"
  | unknownLabels position step => s!"Step {position} ({step}) produces unknown labels"
  | incomplete s => s!"Path for '{s}' does not end in the declared output"
  | notCompilable kernel pattern cause =>
    s!"Kernel {kernel} for '{pattern}' does not compile: {cause}"
  | other message => message

end Fault

structure CallSite where
  text : String
  file : Option String
  line : Option Int
deriving DecidableEq, Repr

structure Report where
  fault : Fault
  span : Option Span := none
  text : Option String := none
  site : Option CallSite := none
deriving DecidableEq, Repr

namespace Report

def message (r : Report) : String := r.fault.message

def kind (r : Report) : FaultKind := r.fault.kind

def describe (r : Report) : String := r.message ++ locationText r.span r.text

/-- The place in the text together with the call site. With a call site, a fault of no particular
place is one of the whole text. -/
def place (r : Report) : Option Span :=
  match r.site with
  | none => r.span
  | some site =>
    some ((r.span.getD (.whole site.text)).atSite site.file site.line)

end Report

structure Diagnostic where
  kind : FaultKind
  message : String
  span : Option Span := none
  text : Option String := none
deriving DecidableEq, Repr

namespace Diagnostic

def ofReport (r : Report) : Diagnostic := ⟨r.kind, r.message, r.place, r.text⟩

def origin : Option Span → String
  | some ⟨_, _, some file, some line⟩ => s!"{file}:{line}: "
  | some ⟨_, _, some file, none⟩ => s!"{file}: "
  | _ => ""

def render (d : Diagnostic) : String :=
  s!"{origin d.span}error[{d.kind.name}]: {d.message}{locationText d.span d.text}"

end Diagnostic

end Einsum
