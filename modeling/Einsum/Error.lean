import Einsum.Fault
import Einsum.Text.Integer

/-!
All the ways in which a request can fail: a report on the expression, or a request that makes no
sense in itself.
-/

namespace Einsum

inductive Error where
  | report (r : Report)
  -- values of the wrong type
  | notText (type : String)
  | notHashable (type : String)
  | notIterable (type : String)
  | notAnIndex (type : String)
  | integerRequired
  | notAListIndex (type : String)
  | notComparable (left right : String)
  | notMeasurable (type : String)
  | notConvertible (type : String)
  | noAttribute (type name : String)
  | repeatedArgument (function name : String)
  | fieldElement (literal : String)
  | notACharacter (length : Nat)
  -- settings
  | unexpectedSetting (name : String)
  | unknownStrategy (shown : String)
  | operandLimit
  | unusablePrefix (literal : String)
  | unknownKind (name : String)
  | unknownFaultKind (name : String)
  | unknownLevel (name : String)
  | formatAsLevel (text : String)
  | notALevel (shown : String)
  -- numbers
  | integer (text : String) (cause : Text.IntegerError)
  | undefinedInteger
  | infiniteInteger
  | tooLargeForFloat
  | integerBounds (n : Int) (type : String)
  | wordOverflow
  | real (text : String)
  | notReal (type : String)
  | unwritableInteger
  -- arithmetic
  | unsupportedOperands (symbol left right : String)
  | notRepeatable (type : String)
  | notJoinable (type : String)
  | hugeCount (type : String)
  | notAddable (left right : String)
  -- look-up
  | listIndex
  | hugeIndex
  | tupleIndex
  | missingKey (literal : String)
  | unbound (name : String)
  | tooFewValues (expected actual : Nat)
  | tooManyValues (expected : Nat)
  | noFurtherLabel
  | missingArguments (function : String) (names : List String)
  | extraArguments (function : String) (expected actual : Nat)
  -- shapes and arrays
  | shapeCount
  | negativeSize
  | inhomogeneous (shape : List Nat)
  | nestedTooDeep (limit : Nat)
  | tooManyAxes (limit actual : Nat)
  | sizeTooLarge
  | arrayTooBig
  | reshape (count : Nat) (sizes : List Int)
  | unknownSizes
  | notAType (name : String)
  | outOfBounds (index axis size : Nat)
  -- files
  | json (message : String)
  | jsonTooDeep (kind : String)
  | notJson (type : String)
  | emptyFile
  | notAnArray
  | objectArray
  | notUnicode
  | notAnArchive
  | nullByte
  | nullCharacter
  | longName (path : String)
  | directory (path : String)
  | notDirectory (path : String)
  | occupied (path : String)
deriving DecidableEq, Repr

def shapeText : List Nat → String
  | [n] => s!"({n},)"
  | ns => "(" ++ ", ".intercalate (ns.map toString) ++ ")"

def enumeration : List String → String
  | [] => ""
  | [a] => Text.quote a
  | [a, b] => s!"{Text.quote a} and {Text.quote b}"
  | as => ", ".intercalate (as.dropLast.map Text.quote) ++ ", and " ++ Text.quote (as.getLastD "")

def sizeText (n : Int) : String := if n < 0 then "newaxis" else toString n

def denseShapeText : List Int → String
  | [n] => s!"({sizeText n},)"
  | ns => "(" ++ ",".intercalate (ns.map sizeText) ++ ")"

def plural (n : Nat) : String := if n = 1 then "" else "s"

namespace Error

def message : Error → String
  | report r => r.message
  | notText type => s!"Subscripts must be a string, got {type}"
  | notHashable type => s!"unhashable type: '{type}'"
  | notIterable type => s!"'{type}' object is not iterable"
  | notAnIndex type => s!"'{type}' object cannot be interpreted as an integer"
  | integerRequired => "an integer is required"
  | notAListIndex type => s!"list indices must be integers or slices, not {type}"
  | notComparable left right => s!"'>' not supported between instances of '{left}' and '{right}'"
  | notMeasurable type => s!"object of type '{type}' has no len()"
  | notConvertible type =>
    s!"int() argument must be a string, a bytes-like object or a real number, not '{type}'"
  | noAttribute type name => s!"'{type}' object has no attribute '{name}'"
  | repeatedArgument function name => s!"{function}() got multiple values for argument '{name}'"
  | fieldElement literal => s!"Field elements must be 2- or 3-tuples, got '{literal}'"
  | notACharacter length => s!"ord() expected a character, but string of length {length} found"
  | unexpectedSetting name =>
    s!"CompilerConfig.__init__() got an unexpected keyword argument '{name}'"
  | unknownStrategy shown => s!"Unsupported planning strategy: {shown}"
  | operandLimit => "max_exhaustive_operands must be at least 2"
  | unusablePrefix literal => s!"kernel_prefix must start a valid identifier: {literal}"
  | unknownKind name => s!"{Text.quote name} is not a valid OpKind"
  | unknownFaultKind name => s!"{Text.quote name} is not a valid ErrorKind"
  | unknownLevel name => s!"module 'logging' has no attribute '{name}'"
  | formatAsLevel text => s!"Unknown level: {Text.quote text}"
  | notALevel shown => s!"Level not an integer or a valid string: {shown}"
  | integer text cause => cause.message text
  | undefinedInteger => "cannot convert float NaN to integer"
  | infiniteInteger => "cannot convert float infinity to integer"
  | tooLargeForFloat => "int too large to convert to float"
  | integerBounds n type => s!"Python integer {n} out of bounds for {type}"
  | wordOverflow => "Python int too large to convert to C long"
  | real text => s!"could not convert string to float: {Text.quote text}"
  | notReal type => s!"float() argument must be a string or a real number, not '{type}'"
  | unwritableInteger =>
    s!"Exceeds the limit ({Text.maxDigits} digits) for integer string conversion; " ++
      "use sys.set_int_max_str_digits() to increase the limit"
  | unsupportedOperands symbol left right =>
    s!"unsupported operand type(s) for {symbol}: '{left}' and '{right}'"
  | notRepeatable type => s!"can't multiply sequence by non-int of type '{type}'"
  | notJoinable type => s!"can only concatenate str (not \"{type}\") to str"
  | hugeCount type => s!"cannot fit '{type}' into an index-sized integer"
  | notAddable left right =>
    "ufunc 'add' did not contain a loop with signature matching types " ++
      s!"(dtype('{left}'), dtype('{right}')) -> None"
  | listIndex => "list index out of range"
  | hugeIndex => "cannot fit 'int' into an index-sized integer"
  | tupleIndex => "tuple index out of range"
  | missingKey literal => literal
  | unbound name => s!"name '{name}' is not defined"
  | tooFewValues expected actual =>
    s!"not enough values to unpack (expected {expected}, got {actual})"
  | tooManyValues expected => s!"too many values to unpack (expected {expected})"
  | noFurtherLabel => ""
  | missingArguments function names =>
    s!"{function}() missing {names.length} required positional argument{plural names.length}: " ++
      enumeration names
  | extraArguments function expected actual =>
    s!"{function}() takes {expected} positional argument{plural expected} but {actual} were given"
  | shapeCount => "Operand shape list does not match einsum inputs"
  | negativeSize => "negative dimensions are not allowed"
  | inhomogeneous shape =>
    s!"setting an array element with a sequence. The requested array has an inhomogeneous shape " ++
      s!"after {shape.length} dimensions. The detected shape was {shapeText shape} + inhomogeneous part."
  | nestedTooDeep limit =>
    "setting an array element with a sequence. The requested array would exceed the maximum number of " ++
      s!"dimension of {limit}."
  | tooManyAxes limit actual =>
    s!"maximum supported dimension for an ndarray is currently {limit}, found {actual}"
  | sizeTooLarge => "Maximum allowed dimension exceeded"
  | arrayTooBig =>
    "array is too big; `arr.size * arr.dtype.itemsize` is larger than the maximum possible size."
  | reshape count sizes =>
    s!"cannot reshape array of size {count} into shape {denseShapeText sizes}"
  | unknownSizes => "can only specify one unknown dimension"
  | notAType name => s!"data type {Text.quote name} not understood"
  | outOfBounds index axis size =>
    s!"index {index} is out of bounds for axis {axis} with size {size}"
  | json message => message
  | jsonTooDeep kind =>
    s!"maximum recursion depth exceeded while decoding a JSON {kind} from a unicode string"
  | notJson type => s!"Object of type {type} is not JSON serializable"
  | emptyFile => "No data left in file"
  | notAnArray =>
    "This file contains pickled (object) data. If you trust the file you can load it unsafely using " ++
      "the `allow_pickle=` keyword argument or `pickle.load()`."
  | objectArray => "Object arrays cannot be loaded when allow_pickle=False"
  | notUnicode => "'utf-8' codec can't decode byte 0x93 in position 0: invalid start byte"
  | notAnArchive => "File is not a zip file"
  | nullByte => "embedded null byte"
  | nullCharacter => "embedded null character"
  | longName path => s!"[Errno 36] File name too long: {Text.quote path}"
  | directory path => s!"[Errno 21] Is a directory: {Text.quote path}"
  | notDirectory path => s!"[Errno 20] Not a directory: {Text.quote path}"
  | occupied path => s!"[Errno 17] File exists: {Text.quote path}"

end Error

end Einsum
