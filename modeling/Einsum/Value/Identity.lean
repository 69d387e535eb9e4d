import Einsum.Value

/-!
When two values count as one member of a set or one name in a record. Numbers are told apart by what
they are, not by their type, and a kind of kernel is the same as its name. Lists, sets, records and
arrays cannot be members.
-/

namespace Einsum

/-- A number in lowest terms, `m * 2 ^ q` with an odd `m` or zero. -/
structure Dyadic where
  m : Int
  q : Int
deriving DecidableEq, Repr

namespace Dyadic

def trim : Nat → Dyadic → Dyadic
  | 0, d => d
  | fuel + 1, d => if d.m ≠ 0 ∧ d.m % 2 = 0 then trim fuel ⟨d.m / 2, d.q + 1⟩ else d

def of (m q : Int) : Dyadic := if m = 0 then ⟨0, 0⟩ else trim m.natAbs.log2 ⟨m, q⟩

end Dyadic

/-- A number as far as equality is concerned; what is not a number equals nothing. -/
inductive NumberIdentity where
  | finite (d : Dyadic)
  | infinite (negative : Bool)
  | none
deriving DecidableEq, Repr

def NumberIdentity.ofFloat (f : Number.Format) (word : Nat) : NumberIdentity :=
  match f.decode word with
  | .finite negative m q => .finite (.of (if negative then -(m : Int) else m) q)
  | .infinite negative => .infinite negative
  | .undefined => .none

def NumberIdentity.ofInt (n : Int) : NumberIdentity := .finite (.of n 0)

def Json.number? : Json → Option NumberIdentity
  | .bool b => some (.ofInt (Scalar.ofBool b))
  | .int n => some (.ofInt n)
  | .float x => some (.ofFloat Number.binary64 x.toBits.toNat)
  | _ => none

def Scalar.number? : Scalar → Option NumberIdentity
  | .bool b => some (.ofInt (ofBool b))
  | .int _ n => some (.ofInt n)
  | .float32 x => some (.ofFloat Number.binary32 x.toBits.toNat)
  | .float64 x => some (.ofFloat Number.binary64 x.toBits.toNat)
  | .plain v => v.number?
  | .failed _ => none

/-- A text that two values share just if they are equal; `none` for a value that equals no other. -/
abbrev Identity := Option String

def NumberIdentity.identity : NumberIdentity → Identity
  | finite d => some s!"number {d.m} {d.q}"
  | infinite negative => some s!"infinite {negative}"
  | none => .none

def textIdentity (s : String) : Identity := some ("text " ++ s)

def joinIdentities (ids : List Identity) : Identity :=
  (ids.mapM id).map fun parts => "tuple " ++ ", ".intercalate (parts.map Text.quote)

def Json.identity (v : Json) : Except Error Identity :=
  match v, v.number? with
  | _, some n => .ok n.identity
  | .null, _ => .ok (some "null")
  | .text s, _ => .ok (textIdentity s)
  | v, _ => .error (.notHashable v.typeName)

mutual

def Value.identity : Value → Except Error Identity
  | .json v => v.identity
  | .kind k => .ok (textIdentity k.name)
  | .constant _ => .ok none
  | .scalar x => .ok (x.number?.bind NumberIdentity.identity)
  | .array _ => .error (.notHashable "numpy.ndarray")
  | .list _ => .error (.notHashable "list")
  | .tuple items => (identities items).map joinIdentities
  | .set _ => .error (.notHashable "set")
  | .record _ => .error (.notHashable "dict")
  | .subscripts e => .ok (some ("subscripts " ++ e.subscripts.text))

def identities : List Value → Except Error (List Identity)
  | [] => .ok []
  | v :: vs =>
    match v.identity with
    | .error e => .error e
    | .ok i => (identities vs).map (i :: ·)

end

abbrev Named := List (Identity × Value × Value)

def Named.insert (id : Identity) (name value : Value) : Named → Named
  | [] => [(id, name, value)]
  | (i, n, v) :: fields =>
    if id.isSome ∧ i = id then (i, n, value) :: fields
    else (i, n, v) :: Named.insert id name value fields

def Value.recordOf (fields : List (Value × Value)) : Except Error Value := do
  let named ← fields.foldlM (fun (found : Named) (name, v) =>
    return found.insert (← name.identity) name v) []
  return .record (named.map Prod.snd)

def Value.distinct (members : List Value) : Except Error (List Value) := do
  let named ← members.foldlM (fun (found : Named) v => do
    let id ← v.identity
    return if id.isSome ∧ found.any (·.1 = id) then found else found ++ [(id, v, v)]) []
  return named.map fun (_, v, _) => v

end Einsum
