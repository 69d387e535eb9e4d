import Einsum.Error
import Einsum.Kernel.Block

/-!
The file form of arrays: a mark, a header that tells type, order and shape, and the elements one
after the other with the least significant byte first.
-/

namespace Einsum

namespace ElemType

def code? : ElemType → Option String
  | bool => some "|b1"
  | int t =>
    let order := if t.width = .w8 then "|" else "<"
    let sign := if t.signed then "i" else "u"
    some s!"{order}{sign}{t.width.bits / 8}"
  | float32 => some "<f4"
  | float64 => some "<f8"
  | object => none

def ofCode? (code : String) : Option ElemType := all.find? (·.code? = some code)

end ElemType

namespace Bytes

def ofNat (width n : Nat) : List UInt8 := (List.range width).map fun k => .ofNat (n / Nat.pow 256 k)

def toNat (bytes : List UInt8) : Nat := bytes.foldr (fun b n => b.toNat + 256 * n) 0

def wordOf (type : ElemType) (x : Scalar) : Nat :=
  match type with
  | .float32 => x.asFloat32.toBits.toNat
  | .float64 => x.asFloat64.toBits.toNat
  | type => (x.toInt % Nat.pow 256 type.byteCount).toNat

def elementOf (type : ElemType) (word : Nat) : Scalar :=
  match type with
  | .float32 => .float32 (.ofBits (.ofNat word))
  | .float64 => .float64 (.ofBits (.ofNat word))
  | type => Scalar.cast type (.exact word)

/-- What every array file starts with: a mark and the version of the form. -/
def mark : List UInt8 := [0x93, 0x4e, 0x55, 0x4d, 0x50, 0x59]

def headerText (code : String) (shape : Shape) : String :=
  "\x7b'descr': '" ++ code ++ "', 'fortran_order': False, 'shape': " ++ shapeText shape ++ ", \x7d"

def paddedHeader (header : String) : String :=
  header.pushn ' ' (63 - (10 + header.length) % 64) ++ "\n"

/-- The bytes of an array; exact integers have no such form. -/
def encode? (t : Tensor Scalar) : Option (List UInt8) :=
  t.type.code?.map fun code =>
    let header := paddedHeader (headerText code t.shape)
    mark ++ [1, 0] ++ ofNat 2 header.length ++ header.toUTF8.toList ++
      t.data.toList.flatMap fun x => ofNat t.type.byteCount (wordOf t.type x)

def after? (word : List Char) : List Char → Option (List Char)
  | [] => none
  | c :: cs =>
    if word.isPrefixOf (c :: cs) then some ((c :: cs).drop word.length) else after? word cs

structure Header where
  type : ElemType
  firstFastest : Bool
  shape : Shape

def sizesOf (cs : List Char) : Shape :=
  (cs.splitOn ',').filterMap fun part => (String.ofList (part.filter Char.isDigit)).toNat?

def Header.parse? (text : List Char) : Option Header := do
  let code ← after? "'descr': '".toList text
  let type ← ElemType.ofCode? (String.ofList (code.takeWhile (· ≠ '\'')))
  let order ← after? "'fortran_order': ".toList text
  let shape ← after? "'shape': (".toList text
  return ⟨type, "True".toList.isPrefixOf order, sizesOf (shape.takeWhile (· ≠ ')'))⟩

def reorder (shape : Shape) (data : Array Scalar) : Array Scalar :=
  ((tuples shape).map fun index =>
    data.getD (offset shape.reverse index.reverse) (.exact 0)).toArray

def headerPlace : List UInt8 → Option (Nat × List UInt8)
  | 1 :: _ :: rest => some (toNat (rest.take 2), rest.drop 2)
  | _ :: _ :: rest => some (toNat (rest.take 4), rest.drop 4)
  | _ => none

def wordsOf (width : Nat) : Nat → List UInt8 → List Nat
  | 0, _ => []
  | count + 1, bytes => toNat (bytes.take width) :: wordsOf width count (bytes.drop width)

def decode (bytes : List UInt8) : Except Error (Tensor Scalar) :=
  if bytes.isEmpty then .error .emptyFile
  else if !mark.isPrefixOf bytes then .error .notAnArray
  else
    let found : Option (Header × List UInt8) := do
      let (length, rest) ← headerPlace (bytes.drop mark.length)
      let header ← Header.parse? ((rest.take length).map fun b : UInt8 => Char.ofNat b.toNat)
      return (header, rest.drop length)
    match found with
    | none => .error .objectArray
    | some (h, rest) =>
      let words := wordsOf h.type.byteCount (Shape.size h.shape) rest
      let data := (words.map (elementOf h.type)).toArray
      .ok ⟨h.type, h.shape, if h.firstFastest then reorder h.shape data else data⟩

end Bytes

end Einsum
