import Einsum.Text.Pad
import Einsum.Tensor.Json

/-!
Arrays printed in rows between brackets. Columns are aligned, long rows are broken, and of a large
array only the corners are shown.
-/

namespace Einsum.Layout

def lineWidth : Nat := 75

/-- Arrays with more elements than this are shown in part. -/
def threshold : Nat := 1000

/-- How many items are shown at each end of an axis. -/
def edgeItems : Nat := 3

def maxFraction : Nat := 8

/-- The items of an axis that are shown; `none` stands for those left out. -/
def axisItems (partly : Bool) (n : Nat) : List (Option Nat) :=
  if partly && 2 * edgeItems < n then
    (List.range edgeItems).map some ++
      none :: (List.range edgeItems).map fun k => some (n - edgeItems + k)
  else (List.range n).map some

def shownPlaces (partly : Bool) : Shape → Nat → List Nat
  | [], base => [base]
  | n :: ns, base =>
    ((axisItems partly n).filterMap id).flatMap fun i => shownPlaces partly ns (base * n + i)

structure Row where
  finished : String
  line : String

/-- A word added; a line that would become too long is ended first, unless it holds nothing yet. -/
def Row.add (width indent : Nat) (r : Row) (word : String) : Row :=
  if width < r.line.length + word.length && indent < r.line.length then
    ⟨r.finished ++ Text.trimEnd r.line ++ "\n", "".pushn ' ' indent ++ word⟩
  else ⟨r.finished, r.line ++ word⟩

def Row.addAll (width indent : Nat) : Row → List String → Row
  | r, [] => r
  | r, [w] => r.add width indent w
  | r, w :: ws =>
    let r := r.add width indent w
    Row.addAll width indent { r with line := r.line ++ " " } ws

def row (width indent : Nat) (words : List String) : String :=
  let r := Row.addAll width indent ⟨"", "".pushn ' ' indent⟩ words
  String.ofList ((r.finished ++ r.line).toList.drop indent)

def block (partly : Bool) (word : Nat → String) : Shape → (base indent width : Nat) → String
  | [], base, _, _ => word base
  | n :: ns, base, indent, width =>
    let items := (axisItems partly n).map fun
      | some i => block partly word ns (base * n + i) (indent + 1) (width - 1)
      | none => "..."
    let inside :=
      if ns.isEmpty then row (width - 1) indent items
      else
        let gap := ("".pushn '\n' ns.length).pushn ' ' indent
        gap.intercalate items
    "[" ++ inside ++ "]"

/-! Numbers -/

structure Finite where
  negative : Bool
  significand : Nat
  exponent : Int

inductive Displayed where
  | finite (x : Finite)
  | special (text : String)

def Displayed.ofWord (f : Number.Format) (word : Nat) : Displayed :=
  match f.decode word with
  | .finite negative m q => .finite ⟨negative, m, q⟩
  | .infinite negative => .special (Number.signed negative "inf")
  | .undefined => .special "nan"

def Displayed.finite? : Displayed → Option Finite
  | finite x => some x
  | special _ => none

structure Parts where
  whole : String
  fraction : String

def Finite.atLeast (x : Finite) (n : Nat) : Bool :=
  let (a, b) := Number.quotientOf x.significand x.exponent
  n * b ≤ a

section

variable (f : Number.Format)

/-- The shortest numeral, or the value rounded to the most digits behind the point. -/
def Finite.positional (x : Finite) : Parts :=
  let shortest := f.shortest x.significand x.exponent
  let d := if -(maxFraction : Int) ≤ shortest.exponent then shortest
    else (Number.roundTo x.significand x.exponent (-maxFraction)).trimZeros (maxFraction + 1)
  if d.digits = 0 then ⟨Number.signed x.negative "0", ""⟩
  else
    let (whole, fraction) := Number.pointed d.numeral (d.leading + 1)
    ⟨Number.signed x.negative (String.ofList whole), String.ofList fraction⟩

structure Scientific where
  parts : Parts
  exponent : Int

def scientificOf (negative : Bool) (d : Number.Decimal) (count : Nat) : Scientific :=
  let digits := d.numeral
  let fraction := (digits.drop 1).take count
  { parts :=
      ⟨Number.signed negative (String.ofList (digits.take 1)),
        String.ofList (fraction ++ List.replicate (count - fraction.length) '0')⟩
    exponent := if d.digits = 0 then 0 else d.leading }

def Finite.rounded (x : Finite) (count : Nat) : Number.Decimal :=
  if x.significand = 0 then .zero
  else
    let (a, b) := Number.quotientOf x.significand x.exponent
    Number.roundTo x.significand x.exponent (Number.decimalExponent a b - count)

def Finite.scientific (x : Finite) : Scientific :=
  let shortest := f.shortest x.significand x.exponent
  let d := if shortest.numeral.length ≤ maxFraction + 1 then shortest
    else (x.rounded maxFraction).trimZeros (maxFraction + 2)
  scientificOf x.negative d (d.numeral.length - 1)

def Finite.scientificAt (x : Finite) (count : Nat) : Scientific :=
  let shortest := f.shortest x.significand x.exponent
  let d := if shortest.numeral.length = count + 1 then shortest else x.rounded count
  scientificOf x.negative d count

def greatestOf (ns : List Nat) : Nat := ns.foldl max 0

/-- Widths before and behind the point that hold some special values as well. -/
def widened (left right : Nat) (xs : List Displayed) : Nat :=
  xs.foldl (fun left x =>
    match x with
    | .finite _ => left
    | .special text => max left (text.length - (right + 1))) left

def paddedSpecial (left right : Nat) (text : String) : String :=
  Text.padLeft (left + right + 1) text

def positionalWord (left right : Nat) : Displayed → String
  | .special text => paddedSpecial left right text
  | .finite x =>
    let p := x.positional f
    Text.padLeft left p.whole ++ "." ++ Text.padRight right p.fraction

def positionalWords (xs : List Displayed) : Displayed → String :=
  let parts := (xs.filterMap Displayed.finite?).map (·.positional f)
  let right := greatestOf (parts.map (·.fraction.length))
  positionalWord f (widened (greatestOf (parts.map (·.whole.length))) right xs) right

def scientificWord (left right fraction exponent : Nat) : Displayed → String
  | .special text => paddedSpecial left right text
  | .finite x =>
    let s := x.scientificAt f fraction
    Text.padLeft left s.parts.whole ++ "." ++ s.parts.fraction ++ "e" ++
      String.ofList (Number.exponentText exponent s.exponent)

def scientificWords (xs : List Displayed) : Displayed → String :=
  let shown := (xs.filterMap Displayed.finite?).map (·.scientific f)
  let fraction := greatestOf (shown.map (·.parts.fraction.length))
  let exponent := greatestOf (shown.map fun s => (Number.exponentText 2 s.exponent).length - 1)
  let right := exponent + 2 + fraction
  let left := greatestOf (shown.map (·.parts.whole.length))
  scientificWord f (widened left right xs) right fraction exponent

/-- How floating-point numbers are written beside others: with an exponent if one of them has more
than `digits` digits before the point. -/
def floatWords (digits : Nat) (xs : List Displayed) : Displayed → String :=
  if (xs.filterMap Displayed.finite?).any (·.atLeast (tenPow digits)) then scientificWords f xs
  else positionalWords f xs

end

/-! Elements -/

def intWords (ns : List Int) : Int → String :=
  let width := greatestOf (ns.map fun n => (toString n).length)
  fun n => Text.padLeft width (toString n)

/-- How the elements of an array of some type are written, given those that are shown. -/
def elementWords (type : ElemType) (xs : List Scalar) : Scalar → String :=
  match type with
  | .bool => fun x => Text.padLeft 5 x.text
  | .int _ =>
    let words := intWords (xs.map Scalar.toInt)
    fun x => words x.toInt
  | .float32 =>
    let value (x : Scalar) := Displayed.ofWord Number.binary32 x.asFloat32.toBits.toNat
    let words := floatWords Number.binary32 6 (xs.map value)
    fun x => words (value x)
  | .float64 =>
    let value (x : Scalar) := Displayed.ofWord Number.binary64 x.asFloat64.toBits.toNat
    let words := floatWords Number.binary64 8 (xs.map value)
    fun x => words (value x)
  | .object => Scalar.literal

end Einsum.Layout

namespace Einsum

namespace Tensor

variable (t : Tensor Scalar)

def element (k : Nat) : Scalar := t.data.getD k (.exact 0)

def isLarge : Bool := Layout.threshold < Shape.size t.shape

def shown : List Scalar := (Layout.shownPlaces t.isLarge t.shape 0).map t.element

def text : String :=
  if t.shape.isEmpty then (t.element 0).text
  else if Shape.size t.shape = 0 then "[]"
  else
    let words := Layout.elementWords t.type t.shown
    Layout.block t.isLarge (fun k => words (t.element k)) t.shape 0 1 Layout.lineWidth

def textFault? : Option Error := t.shown.findSome? Scalar.textFault?

end Tensor

end Einsum
