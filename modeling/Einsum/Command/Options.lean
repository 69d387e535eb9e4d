import Einsum.Arguments.Parse

/-!
The command line of the program: its options, its two commands and their help.
-/

namespace Einsum.Command

open Arguments

def strategies : List String := ["greedy", "exhaustive"]

def planningFlags : List Flag :=
  [{ names := ["--strategy"], value := some (.choice strategies) },
    { names := ["--no-special-cases"] }]

def planningHelp : String :=
  "  --strategy \x7bgreedy,exhaustive\x7d\n" ++
  "                        Contraction ordering strategy (default: greedy)\n" ++
  "  --no-special-cases    Lower every step as a general reduction\n"

def helpHelp : String := "  -h, --help            show this help message and exit\n"

def subscriptsHelp : String := "  subscripts            Einsum subscripts, e.g. 'ij,jk->ik'\n"

def mainGrammar : Grammar where
  program := "einc"
  usage := "usage: einc [-h] [--log-level LOG_LEVEL] [--json-logs] \x7bexplain,run\x7d ...\n"
  details :=
    "einc einsum compiler utilities\n\npositional arguments:\n  \x7bexplain,run\x7d\n" ++
    "    explain             Show the plan and generated code\n" ++
    "    run                 Evaluate subscripts over .npy/.json operands\n\noptions:\n" ++
    helpHelp ++ "  --log-level LOG_LEVEL\n" ++
    "                        Logging level (default: WARNING)\n" ++
    "  --json-logs           Emit logs as JSON\n"
  flags :=
    [helpFlag, { names := ["--log-level"], value := some .any }, { names := ["--json-logs"] }]
  positionals := [⟨"cmd", .command ["explain", "run"]⟩]

def explainGrammar : Grammar where
  program := "einc explain"
  usage :=
    "usage: einc explain [-h] [--operands OPERANDS] [--shape SHAPE] [--json]\n" ++
    "                    [--strategy \x7bgreedy,exhaustive\x7d] [--no-special-cases]\n" ++
    "                    subscripts\n"
  details :=
    "positional arguments:\n" ++ subscriptsHelp ++ "\noptions:\n" ++ helpHelp ++
    "  --operands OPERANDS   Number of operands supplied (default: one per input\n" ++
    "                        group)\n" ++
    "  --shape SHAPE         Operand shape as comma separated sizes; repeat once\n" ++
    "                        per operand\n" ++
    "  --json                Print JSON instead of text\n" ++ planningHelp
  flags := [helpFlag, { names := ["--operands"], value := some .integer },
    { names := ["--shape"], value := some .any }, { names := ["--json"] }] ++ planningFlags
  positionals := [⟨"subscripts", .one⟩]

def runGrammar : Grammar where
  program := "einc run"
  usage :=
    "usage: einc run [-h] [--out OUT] [--strategy \x7bgreedy,exhaustive\x7d]\n" ++
    "                [--no-special-cases]\n                subscripts [operands ...]\n"
  details :=
    "positional arguments:\n" ++ subscriptsHelp ++
    "  operands              Operand files (.npy/.json)\n\noptions:\n" ++ helpHelp ++
    "  --out OUT             Optional output path (.npy/.json). If omitted, prints\n" ++
    "                        the result\n" ++ planningHelp
  flags := [helpFlag, { names := ["--out"], value := some .any }] ++ planningFlags
  positionals := [⟨"subscripts", .one⟩, ⟨"operands", .many⟩]

structure ExplainOptions where
  subscripts : String
  operands : Option Int
  shapes : List String
  json : Bool

structure RunOptions where
  subscripts : String
  operands : List String
  out : Option String

inductive Task where
  | help
  | explain (o : ExplainOptions)
  | run (o : RunOptions)

structure Invocation where
  logLevel : String := "WARNING"
  jsonLogs : Bool := false
  strategy : String := "greedy"
  specialCases : Bool := true
  task : Task := .help

def explainTask (p : Parsed) : Task :=
  .explain
    { subscripts := (p.positional "subscripts").headD ""
      operands := (p.value? "--operands").bind fun s => (Text.readInteger s).toOption
      shapes := p.values "--shape"
      json := p.has "--json" }

def runTask (p : Parsed) : Task :=
  .run
    { subscripts := (p.positional "subscripts").headD ""
      operands := p.positional "operands"
      out := p.value? "--out" }

/-- What a command line asks for. Words that nothing took are told only after the command is
read. -/
def invocation (words : List String) : Except Halt Invocation := do
  let top ← mainGrammar.parse words
  let base : Invocation :=
    { logLevel := (top.value? "--log-level").getD "WARNING", jsonLogs := top.has "--json-logs" }
  let (result, extras) ← match top.positional "cmd" with
    | [] => pure (base, [])
    | name :: rest => do
      let isExplain := name = "explain"
      let p ← (if isExplain then explainGrammar else runGrammar).parse rest
      pure ({ base with
          strategy := (p.value? "--strategy").getD "greedy"
          specialCases := !p.has "--no-special-cases"
          task := if isExplain then explainTask p else runTask p }, p.extras)
  let unknown := top.extras ++ extras
  if unknown.isEmpty then return result
  else
    let names := " ".intercalate unknown
    throw (.fault mainGrammar s!"unrecognized arguments: {names}")

end Einsum.Command
