import Einsum.Error
import Einsum.Json.Writer
import Einsum.Text.Capital
import Einsum.Text.Pad

/-!
Log events, the levels that let them pass, and the lines that show them.
-/

namespace Einsum.Log

inductive Level where
  | debug
  | info
  | warning
  | error
  | critical
deriving DecidableEq, Repr

namespace Level

def name : Level → String
  | debug => "debug"
  | info => "info"
  | warning => "warning"
  | error => "error"
  | critical => "critical"

def severity : Level → Nat
  | debug => 10
  | info => 20
  | warning => 30
  | error => 40
  | critical => 50

def ofName? : String → Option Level
  | "debug" => some debug
  | "info" => some info
  | "warning" | "warn" => some warning
  | "error" => some error
  | "critical" | "fatal" => some critical
  | _ => none

end Level

/-- The table of format styles, as it is shown when it is taken for a level. -/
def stylesText : String :=
  "\x7b'%': (<class 'logging.PercentStyle'>, '%(levelname)s:%(name)s:%(message)s'), " ++
    "'\x7b': (<class 'logging.StrFormatStyle'>, '\x7blevelname\x7d:\x7bname\x7d:\x7bmessage\x7d'), " ++
    "'$': (<class 'logging.StringTemplateStyle'>, '$\x7blevelname\x7d:$\x7bname\x7d:$\x7bmessage\x7d')\x7d"

def thresholdOf (name : String) : Except Error Nat :=
  match Text.capitalize name with
  | "NOTSET" => .ok 0
  | "DEBUG" => .ok Level.debug.severity
  | "INFO" => .ok Level.info.severity
  | "WARNING" | "WARN" => .ok Level.warning.severity
  | "ERROR" => .ok Level.error.severity
  | "CRITICAL" | "FATAL" => .ok Level.critical.severity
  | "BASIC_FORMAT" => .error (.formatAsLevel "%(levelname)s:%(name)s:%(message)s")
  | "_STYLES" => .error (.notALevel stylesText)
  | name => .error (.unknownLevel name)

structure Event where
  logger : String
  level : Level
  message : Json
  fields : List (String × Json) := []
  ending : String := ""

def loggerName (name : String) : String := if name.isEmpty then "root" else name

inductive Style where
  | console
  | json
deriving DecidableEq, Repr

def needsQuotes (s : String) : Bool :=
  s.any fun c => c == ' ' || c == '\t' || c == '=' || c == '\r' || c == '\n' ||
    c == '"' || c == '\''

def fieldText : Json → String
  | .text s => if needsQuotes s then Text.quote s else s
  | v => v.literal

def nameLe (a b : String × Json) : Bool := decide (a.1 ≤ b.1)

def fieldPart (name : String) (v : Json) : String := s!"{name}={fieldText v}"

/-- Fields that stand in a column of their own, or that the logger sets itself. -/
def columnNames : List String :=
  ["", "timestamp", "level", "event", "logger", "logger_name", "stack", "exception", "exc_info"]

namespace Event

variable (e : Event)

def field? (name : String) : Option Json := e.fields.lookup name

def given? (name : String) : Option Json :=
  match e.field? name with
  | some .null => none
  | v => v

/-- The first line: a field without a name, time, level, message, logger, and the other fields in
alphabetical order. -/
def headline (stamp : String) : String :=
  let unnamed := (e.field? "").toList.map (fieldPart "")
  let message := match e.message with
    | .null => []
    | v => [Text.padRight 30 v.display]
  let secondName := (e.field? "logger_name").toList.map fun v => s!"[{v.display}]"
  let others := e.fields.filter (·.1 ∉ columnNames)
  " ".intercalate (unnamed ++ [stamp, s!"[{Text.padRight 9 e.level.name}]"] ++ message ++
    [s!"[{e.logger}]"] ++ secondName ++
    (sorted nameLe others).map fun (name, v) => fieldPart name v)

/-- What stands below the first line: a stack, and an exception after a rule. There is no text for
an event in which one of them is no text. -/
def details? : Option String :=
  let isBoth := (e.given? "exception").isSome || ((e.field? "exc_info").map Json.truth).getD false
  let stack := match e.given? "stack" with
    | none => some ""
    | some (.text s) => some ("\n" ++ s ++ if isBoth then "\n\n".pushn '=' 79 ++ "\n" else "")
    | some _ => none
  let exception := match e.given? "exception" with
    | none => some ""
    | some (.text s) => some ("\n" ++ s)
    | some _ => none
  match stack, exception with
  | some s, some t => some (s ++ t)
  | _, _ => none

def console? (stamp : String) : Option String :=
  e.details?.map fun details => Text.trimEnd (e.headline stamp) ++ details

def json (stamp : String) : String :=
  let message := match e.message with
    | .null => []
    | v => [("event", v)]
  let base :=
    message ++ [("level", .text e.level.name), ("timestamp", .text stamp),
      ("logger", .text e.logger)]
  let fields := base.foldl (fun fields (name, v) => Json.insertField name v fields) e.fields
  (Json.object fields).compact

def line? (style : Style) (stamp : String) : Option String :=
  let shown := match style with
    | .console => e.console? stamp
    | .json => some (e.json stamp)
  shown.map (· ++ e.ending)

end Event

def argumentFault? (method : String) (fields : List (String × Json)) : Option Error :=
  let names := fields.map Prod.fst
  match names.find? fun name => name = "self" ∨ name = "event" with
  | some name => some (.repeatedArgument s!"BoundLogger.{method}" name)
  | none =>
    if "method_name" ∈ names then
      some (.repeatedArgument "BoundLogger._proxy_to_logger" "method_name")
    else none

/-- An event logged by a call of a method, which is named for the level. The method for exceptions
also tells the current one, of which there is none. -/
def Event.ofCall (method logger : String) (message : Json) (fields : List (String × Json)) :
    Except Error Event := do
  let isException := method = "exception"
  match Level.ofName? (if isException then "error" else method) with
  | none => throw (.noAttribute "BoundLogger" method)
  | some level =>
    if let some e := argumentFault? method fields then throw e
    let event : Event := { logger := loggerName logger, level, message, fields }
    if !isException then return event
    let fields := if (fields.lookup "exc_info").isSome then fields
      else fields ++ [("exc_info", .bool true)]
    return { event with fields, ending := "\nNoneType: None" }

def render (style : Style) (threshold : Nat) (stamp : String) (events : List Event) : String :=
  let passing := events.filter (threshold ≤ ·.level.severity)
  String.join ((passing.filterMap (·.line? style stamp)).map (· ++ "\n"))

end Einsum.Log
