import Einsum.Command.Files
import Einsum.Command.Options
import Einsum.Command.Shape
import Einsum.Cost
import Einsum.Log.Compile
import Einsum.Program.Explain
import Einsum.Tensor.Layout

/-!
Carrying out a command line: what it prints, logs and writes, and how it ends.
-/

namespace Einsum.Command

/-- How a command ends: with a code, with a message, or by an error that nothing handles. -/
inductive Exit where
  | code (n : Nat)
  | message (s : String)
  | failure (e : Error)

structure Output where
  stdout : String := ""
  stderr : String := ""
  written : List (String × Content) := []

abbrev Action := ExceptT Exit (StateM Output)

structure Journal where
  style : Log.Style
  threshold : Nat
  stamp : String

def print (s : String) : Action Unit := modify fun o => { o with stdout := o.stdout ++ s ++ "\n" }

def printError (s : String) : Action Unit := modify fun o => { o with stderr := o.stderr ++ s }

def Journal.log (j : Journal) (events : List Log.Event) : Action Unit :=
  printError (Log.render j.style j.threshold j.stamp events)

def attempt {α : Type} : Except Error α → Action α
  | .ok a => pure a
  | .error (.report r) => do
    printError ((Diagnostic.ofReport r).render ++ "\n")
    throw (.code 2)
  | .error e => throw (.failure e)

section

variable (journal : Journal) (config : Config)

def infoEvent (message : String) (fields : List (String × Json)) : Log.Event :=
  { logger := "einc.cli", level := .info, message := .text message, fields }

/-- The number of operands that are not counted otherwise is the number of groups. -/
def operandCount (o : ExplainOptions) : Action Int :=
  match o.operands with
  | some n => pure n
  | none => do
    let e ← attempt ((parse o.subscripts).mapError .report)
    journal.log (Log.parseEvents o.subscripts e)
    return e.subscripts.inputs.length

def readShapes : List String → Action (List (List Int))
  | [] => pure []
  | s :: ss =>
    match readShape s with
    | .error message => throw (.message message)
    | .ok shape => return shape :: (← readShapes ss)

def costs (p : Program) (shapes : List String) : Action (List Tally) := do
  let shapes ← readShapes shapes
  let sizes ← attempt (p.subscripts.labelSizes (shapes.map plainShape))
  attempt (p.path.tally sizes)

def tallySummary (t : Tally) : Json :=
  .object
    [("flops", .float t.flops), ("elements_in", .int t.elementsIn),
     ("elements_out", .int t.elementsOut),
     ("summed", .list (t.summed.map fun l => .text (labelText l)))]

def printJson (v : Json) : Action Unit := do
  if !v.isWritable then throw (.failure .unwritableInteger)
  print v.pretty

def printCost (text : String) (t : Tally) : Action Unit := do
  let flops := (Scalar.float64 t.flops).toInt
  if !(Json.int t.elementsOut).isWritable then throw (.failure .unwritableInteger)
  print s!"[cost] {text} flops={flops} out={t.elementsOut}"

def addField (v : Json) (name : String) (w : Json) : Json :=
  match v with
  | .object fields => .object (Json.insertField name w fields)
  | v => v

def explainJson (p : Program) (shapes : List String) : Action Unit := do
  if shapes.isEmpty then printJson p.summary
  else
    let tallies ← costs p shapes
    printJson (addField p.summary "stats" (.list (tallies.map tallySummary)))

def explainText (p : Program) (shapes : List String) : Action Unit := do
  print p.explain
  if !shapes.isEmpty then
    let tallies ← costs p shapes
    (p.path.describe.zip tallies).forM fun (text, t) => printCost text t
  print ""
  modify fun o => { o with stdout := o.stdout ++ p.source }

def explain (o : ExplainOptions) : Action Unit := do
  let count ← operandCount journal o
  let session : Session := { config }
  journal.log (Log.sessionEvents session o.subscripts count)
  let p ← attempt (session.compile o.subscripts count).1
  journal.log [infoEvent "compiled"
    [("subscripts", .text p.subscripts.text), ("steps", .int p.operations.length)]]
  if o.json then explainJson p o.shapes else explainText p o.shapes

def load (files : Files) (path : String) : Action (Tensor Scalar) := do
  let path := normalizePath path
  match ← attempt (files.load path) with
  | some t => return t
  | none => throw (.message s!"Operand file not found: {path}")

def save (files : Files) (path : String) (t : Tensor Scalar) : Action Unit := do
  let path := normalizePath path
  let isJson := isJsonPath path
  attempt (files.ensureParent path)
  let content ← attempt (resultContent t isJson)
  let place ← attempt (files.place path isJson)
  modify fun o => { o with written := o.written ++ [(place, content)] }

def printTensor (t : Tensor Scalar) : Action Unit :=
  match t.textFault? with
  | some e => throw (.failure e)
  | none => print t.text

def run (files : Files) (o : RunOptions) : Action Unit := do
  let operands ← o.operands.mapM (load files)
  let session : Session := { config }
  journal.log (Log.sessionEvents session o.subscripts operands.length)
  let t ← attempt (session.einsum o.subscripts (operands.map .array)).1
  journal.log [infoEvent "evaluated"
    [("subscripts", .text o.subscripts), ("shape", .list (t.shape.map fun n : Nat => .int n))]]
  match o.out with
  | none => printTensor t
  | some path => save files path t

end

def helpText (g : Arguments.Grammar) : String := g.usage ++ "\n" ++ g.details

def Invocation.config (i : Invocation) : Config where
  strategy := (Strategy.ofName? i.strategy).getD .greedy
  specialCases := i.specialCases

def perform (files : Files) (stamp : String) (i : Invocation) : Action Unit := do
  let threshold ← attempt (Log.thresholdOf i.logLevel)
  let journal : Journal := ⟨if i.jsonLogs then .json else .console, threshold, stamp⟩
  match i.task with
  | .help => modify fun o => { o with stdout := o.stdout ++ helpText mainGrammar }
  | .explain o => explain journal i.config o
  | .run o => run journal i.config files o

def execute (files : Files) (stamp : String) (words : List String) : Exit × Output :=
  match invocation words with
  | .error (.help g) => (.code 0, { stdout := helpText g })
  | .error (.fault g message) =>
    (.code 2, { stderr := s!"{g.usage}{g.program}: error: {message}\n" })
  | .ok i =>
    match (perform files stamp i).run.run {} with
    | (.ok (), o) => (.code 0, o)
    | (.error exit, o) => (exit, o)

end Einsum.Command
