import Einsum.Arguments.Grammar

/-!
Reading a command line. Words are first told apart, then taken from left to right: positional
arguments as many as fit before the next option, then that option with its value.
-/

namespace Einsum.Arguments

inductive Mark where
  | plain
  | separator
  | option (r : Reading)
deriving DecidableEq, Repr

structure Word where
  text : String
  mark : Mark
deriving DecidableEq, Repr

def Word.isOption (w : Word) : Bool :=
  match w.mark with
  | .option _ => true
  | _ => false

def Word.isSeparator (w : Word) : Bool := w.mark == .separator

def markWords (g : Grammar) : List String → Except Halt (List Word)
  | [] => .ok []
  | "--" :: rest => .ok (⟨"--", .separator⟩ :: rest.map (⟨·, .plain⟩))
  | word :: rest => do
    let mark := match ← g.readOption word with
      | some r => .option r
      | none => .plain
    return ⟨word, mark⟩ :: (← markWords g rest)

def Slot.take? (slot : Slot) (ws : List Word) : Option Nat :=
  let leading := (ws.takeWhile Word.isSeparator).length
  let rest := ws.drop leading
  match slot with
  | .many => some (leading + (rest.takeWhile fun w => !w.isOption).length)
  | .one =>
    match rest with
    | w :: more =>
      if w.mark = .plain then some (leading + 1 + (more.takeWhile Word.isSeparator).length)
      else none
    | [] => none
  | .command _ =>
    match rest with
    | w :: more => if w.mark = .plain then some (leading + 1 + more.length) else none
    | [] => none

inductive Item where
  | flag (f : Flag) (value : Option String)
  | positional (p : Positional) (values : List String)
deriving DecidableEq, Repr

/-- The words of a positional argument; the first separator among them is left out, except before a
command. -/
def Positional.values (p : Positional) (ws : List Word) : List String :=
  let texts := ws.map Word.text
  match p.slot with
  | .command _ => texts
  | _ => texts.erase "--"

/-- What is read so far: the items, the words that nothing took, and the positional arguments to
come. -/
structure Progress where
  items : List Item := []
  extras : List String := []
  pending : List Positional

def fill : List Positional → List Word → List Item × List Positional × List Word
  | [], ws => ([], [], ws)
  | p :: ps, ws =>
    match p.slot.take? ws with
    | none => ([], p :: ps, ws)
    | some n =>
      let (items, left, rest) := fill ps (ws.drop n)
      (.positional p (p.values (ws.take n)) :: items, left, rest)

def Progress.fill (s : Progress) (ws : List Word) : Progress × List Word :=
  let (items, left, rest) := Arguments.fill s.pending ws
  ({ s with items := s.items ++ items, pending := left }, rest)

def fault (g : Grammar) (f : Flag) (message : String) : Halt :=
  .fault g s!"argument {f.title}: {message}"

def ignoredFault (g : Grammar) (f : Flag) (value : String) : Halt :=
  fault g f s!"ignored explicit argument {Text.quote value}"

/-- Letters joined to a flag of one letter are flags themselves. Flags of one letter take no
value. -/
def cluster (g : Grammar) (f : Flag) : List Char → Except Halt (List Item)
  | [] => .ok [.flag f none]
  | c :: cs =>
    match g.find? (String.ofList ['-', c]) with
    | some next => (cluster g next cs).map (.flag f none :: ·)
    | none => .error (ignoredFault g f (String.ofList (c :: cs)))

/-- An option and what follows it; the result is what it gives and how many further words it
takes. -/
def takeOption (g : Grammar) (word : String) (r : Reading) (next : Option Word) :
    Except Halt (List Item × List String × Nat) :=
  match r.flag with
  | none => .ok ([], [word], 0)
  | some f =>
    match f.value, r.attached with
    | some _, some value => .ok ([.flag f (some value)], [], 0)
    | some _, none =>
      match next with
      | some ⟨text, .plain⟩ => .ok ([.flag f (some text)], [], 1)
      | _ => .error (fault g f "expected one argument")
    | none, none => .ok ([.flag f none], [], 0)
    | none, some value =>
      if r.name.startsWith "--" || value.isEmpty then .error (ignoredFault g f value)
      else (cluster g f value.toList).map fun items => (items, [], 0)

/-- Words are taken until no option is left; then the last positional arguments are filled. Each
round takes at least one word. -/
def takeWords (g : Grammar) : Nat → Progress → List Word → Progress × Option Halt
  | 0, s, _ => (s, none)
  | fuel + 1, s, ws =>
    if !ws.any Word.isOption then
      let (s, rest) := s.fill ws
      ({ s with extras := s.extras ++ rest.map Word.text }, none)
    else
      match ws with
      | [] => (s, none)
      | w :: more =>
        match w.mark with
        | .option r =>
          match takeOption g w.text r more.head? with
          | .error stop => (s, some stop)
          | .ok (items, extras, n) =>
            takeWords g fuel { s with items := s.items ++ items, extras := s.extras ++ extras }
              (more.drop n)
        | _ =>
          let (filled, rest) := s.fill ws
          if rest.length < ws.length then takeWords g fuel filled rest
          else
            let skipped := ws.takeWhile fun w => !w.isOption
            takeWords g fuel { filled with extras := filled.extras ++ skipped.map Word.text }
              (ws.drop skipped.length)

def choiceFault (title value : String) (names : List String) : String :=
  let choices := ", ".intercalate (names.map Text.quote)
  s!"argument {title}: invalid choice: {Text.quote value} (choose from {choices})"

def Rule.check (rule : Rule) (title value : String) : Except String Unit :=
  match rule with
  | .any => .ok ()
  | .integer =>
    match Text.readInteger value with
    | .ok _ => .ok ()
    | .error _ => .error s!"argument {title}: invalid int value: {Text.quote value}"
  | .choice names => if value ∈ names then .ok () else .error (choiceFault title value names)

/-- An item takes effect: help ends all, and a value must keep its rule. -/
def Item.check (g : Grammar) : Item → Except Halt Unit
  | .flag f value =>
    if f = helpFlag then .error (.help g)
    else match f.value, value with
      | some rule, some v => (rule.check f.title v).mapError (.fault g)
      | _, _ => .ok ()
  | .positional p values =>
    match p.slot, values with
    | .command names, v :: _ => ((Rule.choice names).check p.name v).mapError (.fault g)
    | _, _ => .ok ()

structure Parsed where
  items : List Item
  extras : List String

namespace Parsed

def values (p : Parsed) (key : String) : List String :=
  p.items.filterMap fun
    | .flag f (some v) => if f.key = key then some v else none
    | _ => none

/-- The value of a flag; the last one counts. -/
def value? (p : Parsed) (key : String) : Option String := (p.values key).getLast?

def has (p : Parsed) (key : String) : Bool :=
  p.items.any fun
    | .flag f _ => f.key = key
    | _ => false

def positional (p : Parsed) (name : String) : List String :=
  (p.items.findSome? fun
    | .positional q values => if q.name = name then some values else none
    | _ => none).getD []

end Parsed

def Grammar.parse (g : Grammar) (words : List String) : Except Halt Parsed := do
  let ws ← markWords g words
  let (s, stop) := takeWords g (ws.length + 1) { pending := g.positionals } ws
  s.items.forM (Item.check g)
  match stop with
  | some stop => throw stop
  | none =>
    let missing := (s.pending.filter Positional.required).map Positional.name
    if missing.isEmpty then return ⟨s.items, s.extras⟩
    else
      let names := ", ".intercalate missing
      throw (.fault g s!"the following arguments are required: {names}")

end Einsum.Arguments
