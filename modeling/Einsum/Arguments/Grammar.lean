import Einsum.Text.Digit
import Einsum.Text.Integer
import Einsum.Text.Quoted

/-!
What a command line may hold: options, which start with a dash, and positional arguments.
-/

namespace Einsum.Arguments

inductive Rule where
  | any
  | integer
  | choice (names : List String)
deriving DecidableEq, Repr

structure Flag where
  names : List String
  value : Option Rule := none
deriving DecidableEq, Repr

def Flag.key (f : Flag) : String := f.names.getLastD ""

def Flag.title (f : Flag) : String := "/".intercalate f.names

inductive Slot where
  | one
  /-- Any number of arguments; only the last slot may be one of these. -/
  | many
  | command (names : List String)
deriving DecidableEq, Repr

structure Positional where
  name : String
  slot : Slot
deriving DecidableEq, Repr

def Positional.required (p : Positional) : Bool :=
  match p.slot with
  | .one | .many => true
  | .command _ => false

structure Grammar where
  program : String
  usage : String
  details : String
  flags : List Flag
  positionals : List Positional
deriving DecidableEq, Repr

def helpFlag : Flag := { names := ["-h", "--help"] }

inductive Halt where
  | help (g : Grammar)
  | fault (g : Grammar) (message : String)

def Grammar.find? (g : Grammar) (name : String) : Option Flag := g.flags.find? (name ∈ ·.names)

def Grammar.named (g : Grammar) : List (String × Flag) :=
  g.flags.flatMap fun f => f.names.map (·, f)

structure Reading where
  flag : Option Flag
  name : String := ""
  attached : Option String := none
deriving DecidableEq, Repr

def cutEquals (word : String) : Option (String × String) :=
  let cs := word.toList
  match cs.dropWhile (· ≠ '=') with
  | [] => none
  | _ :: rest => some (String.ofList (cs.takeWhile (· ≠ '=')), String.ofList rest)

def Grammar.longReadings (g : Grammar) (word : String) : List Reading :=
  let start := ((cutEquals word).map Prod.fst).getD word
  let attached := (cutEquals word).map Prod.snd
  g.named.filterMap fun (name, f) =>
    if name.startsWith start then some ⟨some f, name, attached⟩ else none

/-- The flags that a word with a single dash can mean: its first letter with the rest as a value, or
the start of a name. -/
def Grammar.shortReadings (g : Grammar) (word : String) : List Reading :=
  let short := String.ofList (word.toList.take 2)
  g.named.filterMap fun (name, f) =>
    if name = short then some ⟨some f, name, some (String.ofList (word.toList.drop 2))⟩
    else if name.startsWith word then some ⟨some f, name, none⟩
    else none

def Grammar.abbreviated (g : Grammar) (word : String) : List Reading :=
  if word.startsWith "--" then g.longReadings word else g.shortReadings word

def isDigits (cs : List Char) : Bool := cs.all fun c => (Text.digitValue? c).isSome

/-- A minus sign before digits, with or without a point among them; a line end may follow. -/
def isNegativeNumber (word : String) : Bool :=
  match word.toList with
  | '-' :: cs =>
    let cs := if cs.getLast? = some '\n' then cs.dropLast else cs
    let whole := cs.takeWhile (· ≠ '.')
    match cs.dropWhile (· ≠ '.') with
    | [] => !whole.isEmpty && isDigits whole
    | _ :: fraction => isDigits whole && !fraction.isEmpty && isDigits fraction
  | _ => false

/-- A word as an option, if it is one; a beginning that fits several options is a fault. -/
def Grammar.readOption (g : Grammar) (word : String) : Except Halt (Option Reading) :=
  if !word.startsWith "-" then .ok none
  else match g.find? word with
    | some f => .ok (some ⟨some f, word, none⟩)
    | none =>
      if word.length = 1 then .ok none
      else
        let exact := (cutEquals word).bind fun (name, text) =>
          (g.find? name).map fun f => (⟨some f, name, some text⟩ : Reading)
        match exact, g.abbreviated word with
        | some r, _ => .ok (some r)
        | none, [r] => .ok (some r)
        | none, [] =>
          if isNegativeNumber word || word.contains ' ' then .ok none
          else .ok (some ⟨none, word, none⟩)
        | none, rs =>
          let names := ", ".intercalate (rs.map Reading.name)
          .error (.fault g s!"ambiguous option: {word} could match {names}")

end Einsum.Arguments
