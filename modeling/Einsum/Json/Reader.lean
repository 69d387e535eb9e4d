import Einsum.Json.Basic
import Einsum.Text.Integer

/-!
Reading JSON text. `NaN`, `Infinity` and `-Infinity` are numbers. A failure carries what was
expected and how many characters were left, which gives the line and the column.
-/

namespace Einsum.Json

inductive Expected where
  | value
  | name
  | colon
  | comma
  | nothing
  | closingQuote
  | plainCharacter
  | escape
  | unicodeEscape
  | noMark
deriving DecidableEq, Repr

def Expected.message : Expected → String
  | value => "Expecting value"
  | name => "Expecting property name enclosed in double quotes"
  | colon => "Expecting ':' delimiter"
  | comma => "Expecting ',' delimiter"
  | nothing => "Extra data"
  | closingQuote => "Unterminated string starting at"
  | plainCharacter => "Invalid control character at"
  | escape => "Invalid \\escape"
  | unicodeEscape => "Invalid \\uXXXX escape"
  | noMark => "Unexpected UTF-8 BOM (decode using utf-8-sig)"

inductive ReadError where
  | syntactic (expected : Expected) (remaining : Nat)
  | integer (text : String) (cause : Text.IntegerError)
  | tooDeep (kind : String)

abbrev Read (α : Type) := Except ReadError (α × List Char)

def fail {α : Type} (expected : Expected) (rest : List Char) : Except ReadError α :=
  .error (.syntactic expected rest.length)

def isSpace (c : Char) : Bool := c == ' ' || c == '\t' || c == '\n' || c == '\r'

def skipSpace (cs : List Char) : List Char := cs.dropWhile isSpace

def hexValue? (c : Char) : Option Nat :=
  if '0' ≤ c ∧ c ≤ '9' then some (c.toNat - '0'.toNat)
  else if 'a' ≤ c ∧ c ≤ 'f' then some (c.toNat - 'a'.toNat + 10)
  else if 'A' ≤ c ∧ c ≤ 'F' then some (c.toNat - 'A'.toNat + 10)
  else none

def readUnit? : List Char → Option (Nat × List Char)
  | a :: b :: c :: d :: rest =>
    match hexValue? a, hexValue? b, hexValue? c, hexValue? d with
    | some a, some b, some c, some d => some (((a * 16 + b) * 16 + c) * 16 + d, rest)
    | _, _, _, _ => none
  | _ => none

def isHighSurrogate (n : Nat) : Bool := 0xd800 ≤ n && n ≤ 0xdbff

def isLowSurrogate (n : Nat) : Bool := 0xdc00 ≤ n && n ≤ 0xdfff

/-- The character of a sixteen-bit unit; a lone surrogate gives the replacement character. -/
def unitChar (n : Nat) : Char :=
  if isHighSurrogate n || isLowSurrogate n then '\ufffd' else Char.ofNat n

/-- A unit that was read, joined with the low surrogate that follows a high one. -/
def joinUnits (n : Nat) (rest : List Char) : Char × List Char :=
  match rest with
  | '\\' :: 'u' :: more =>
    match readUnit? more with
    | some (m, more) =>
      if isHighSurrogate n && isLowSurrogate m then
        (Char.ofNat (0x10000 + (n - 0xd800) * 0x400 + (m - 0xdc00)), more)
      else (unitChar n, rest)
    | none => (unitChar n, rest)
  | _ => (unitChar n, rest)

def simpleEscape? : Char → Option Char
  | '"' => some '"'
  | '\\' => some '\\'
  | '/' => some '/'
  | 'b' => some '\x08'
  | 'f' => some '\x0c'
  | 'n' => some '\n'
  | 'r' => some '\r'
  | 't' => some '\t'
  | _ => none

/-- The characters up to the closing quote; `start` is the text from the opening quote on. -/
def readString (start : List Char) : Nat → List Char → Read (List Char)
  | 0, _ => fail .closingQuote start
  | _ + 1, [] => fail .closingQuote start
  | fuel + 1, c :: cs =>
    if c == '"' then .ok ([], cs)
    else if c == '\\' then
      match cs with
      | [] => fail .closingQuote start
      | 'u' :: more =>
        match readUnit? more with
        | none | some (_, []) => fail .unicodeEscape cs
        | some (n, rest) =>
          let (c, rest) := joinUnits n rest
          (readString start fuel rest).map fun (s, rest) => (c :: s, rest)
      | e :: more =>
        match simpleEscape? e with
        | none => fail .escape (c :: cs)
        | some c => (readString start fuel more).map fun (s, rest) => (c :: s, rest)
    else if c.toNat < 0x20 then fail .plainCharacter (c :: cs)
    else (readString start fuel cs).map fun (s, rest) => (c :: s, rest)

def takeDigits (cs : List Char) : List Char × List Char :=
  (cs.takeWhile Char.isDigit, cs.dropWhile Char.isDigit)

def readFraction? : List Char → Option (List Char × List Char)
  | '.' :: cs =>
    match takeDigits cs with
    | ([], _) => none
    | found => some found
  | _ => none

def readExponent? : List Char → Option (Int × List Char)
  | e :: cs =>
    if e == 'e' || e == 'E' then
      let (negative, cs) := match cs with
        | '-' :: cs => (true, cs)
        | '+' :: cs => (false, cs)
        | cs => (false, cs)
      match takeDigits cs with
      | ([], _) => none
      | (ds, rest) =>
        let n : Int := Text.ofDigits (ds.map fun d => d.toNat - '0'.toNat)
        some (if negative then -n else n, rest)
    else none
  | [] => none

def floatOf (negative : Bool) (digits : Nat) (exponent : Int) : Float :=
  let word := Number.binary64.ofDecimal digits exponent
  .ofBits (.ofNat (word + if negative then Number.binary64.signBit else 0))

def infinity (negative : Bool) : Json :=
  let word := Number.binary64.infinity
  .float (.ofBits (.ofNat (word + if negative then Number.binary64.signBit else 0)))

def undefinedNumber : Json := .float (.ofBits 0x7ff8000000000000)

def readNumber? (negative : Bool) (cs : List Char) : Option (Read Json) :=
  let whole := match cs with
    | '0' :: rest => (['0'], rest)
    | cs => takeDigits cs
  match whole with
  | ([], _) => none
  | (ds, rest) =>
    let fraction := readFraction? rest
    let rest := (fraction.map Prod.snd).getD rest
    let exponent := readExponent? rest
    let rest := (exponent.map Prod.snd).getD rest
    let fs := (fraction.map Prod.fst).getD []
    let value (ds : List Char) : Nat := Text.ofDigits (ds.map fun d => d.toNat - '0'.toNat)
    some <| if fraction.isSome || exponent.isSome then
      let e := (exponent.map Prod.fst).getD 0
      .ok (.float (floatOf negative (value (ds ++ fs)) (e - fs.length)), rest)
    else if ds.length > Text.maxDigits then
      .error (.integer (String.ofList ds) (.tooLong ds.length))
    else
      .ok (.int (if negative then -(value ds : Int) else value ds), rest)

def afterWord? (word : String) (cs : List Char) : Option (List Char) :=
  if word.toList.isPrefixOf cs then some (cs.drop word.length) else none

def words : List (String × Json) :=
  [("null", .null), ("true", .bool true), ("false", .bool false), ("NaN", undefinedNumber),
   ("Infinity", infinity false), ("-Infinity", infinity true)]

def readWord? (cs : List Char) : Option (Json × List Char) :=
  words.findSome? fun (word, v) => (afterWord? word cs).map fun rest => (v, rest)

def readScalar (cs : List Char) : Read Json :=
  match readWord? cs with
  | some found => .ok found
  | none =>
    let number := match cs with
      | '-' :: rest => readNumber? true rest
      | cs => readNumber? false cs
    number.getD (fail .value cs)

mutual

/-- A value at the front of the text, at most `depth` levels deep. Each call spends one unit of
fuel, and twice the length of the text is enough. -/
def readValue : Nat → Nat → List Char → Read Json
  | 0, _, cs => fail .value cs
  | fuel + 1, depth, cs =>
    match cs with
    | '"' :: rest => (readString cs (rest.length + 1) rest).map fun (s, rest) =>
        (.text (String.ofList s), rest)
    | '[' :: rest =>
      if depth = 0 then .error (.tooDeep "array")
      else match skipSpace rest with
      | ']' :: rest => .ok (.list [], rest)
      | rest => (readItems fuel (depth - 1) rest).map fun (items, rest) => (.list items, rest)
    | c :: rest =>
      if c == '\x7b' then
        if depth = 0 then .error (.tooDeep "object")
        else match skipSpace rest with
        | [] => fail .name []
        | d :: more =>
          if d == '\x7d' then .ok (.object [], more)
          else (readFields fuel (depth - 1) [] (d :: more)).map fun (fields, rest) =>
            (.object fields, rest)
      else readScalar cs
    | [] => fail .value cs

def readItems : Nat → Nat → List Char → Read (List Json)
  | 0, _, cs => fail .value cs
  | fuel + 1, depth, cs =>
    match readValue fuel depth cs with
    | .error e => .error e
    | .ok (v, rest) =>
      match skipSpace rest with
      | ',' :: rest => (readItems fuel depth (skipSpace rest)).map fun (vs, rest) => (v :: vs, rest)
      | ']' :: rest => .ok ([v], rest)
      | rest => fail .comma rest

def readFields : Nat → Nat → List (String × Json) → List Char → Read (List (String × Json))
  | 0, _, _, cs => fail .name cs
  | fuel + 1, depth, fields, cs =>
    match cs with
    | '"' :: rest =>
      match readString cs (rest.length + 1) rest with
      | .error e => .error e
      | .ok (name, rest) =>
        match skipSpace rest with
        | ':' :: rest =>
          match readValue fuel depth (skipSpace rest) with
          | .error e => .error e
          | .ok (v, rest) =>
            let fields := insertField (String.ofList name) v fields
            match skipSpace rest with
            | ',' :: rest => readFields fuel depth fields (skipSpace rest)
            | c :: rest => if c == '\x7d' then .ok (fields, rest) else fail .comma (c :: rest)
            | [] => fail .comma []
        | rest => fail .colon rest
    | cs => fail .name cs

end

def readChars (depth : Nat) (cs : List Char) : Except ReadError Json :=
  match cs with
  | '\ufeff' :: _ => fail .noMark cs
  | cs =>
    match readValue (2 * cs.length + 1) depth (skipSpace cs) with
    | .error e => .error e
    | .ok (v, rest) =>
      match skipSpace rest with
      | [] => .ok v
      | rest => fail .nothing rest

def lineColumn (before : List Char) : Nat × Nat :=
  (before.count '\n' + 1, (before.reverse.takeWhile (· != '\n')).length + 1)

def ReadError.message (s : String) : ReadError → String
  | .syntactic expected remaining =>
    let position := s.length - remaining
    let (line, column) := lineColumn (s.toList.take position)
    s!"{expected.message}: line {line} column {column} (char {position})"
  | .integer digits cause => cause.message digits
  | .tooDeep kind => s!"{kind}s nested too deep"

/-- The value of a text whose lists and objects stand at most `depth` deep inside one another. -/
def readWithin (depth : Nat) (s : String) : Except ReadError Json := readChars depth s.toList

def read (s : String) : Except ReadError Json := readWithin s.length s

end Einsum.Json
