import Einsum.Json.Reader
import Einsum.Json.Writer
import Einsum.Tensor.Json
import Einsum.Text.Lines

/-!
Files by path, and how operands are read from them and results written.
-/

namespace Einsum.Command

inductive Content where
  | text (s : String)
  | array (t : Tensor Scalar)

/-- Files by path; paths without a slash in front start from the working directory. -/
abbrev Files := List (String × Content)

def pathParts (path : String) : List String :=
  ((path.toList.splitOn '/').map String.ofList).filter fun part => part ≠ "" ∧ part ≠ "."

/-- The slashes an absolute path starts with: one, unless there are exactly two. -/
def pathRoot (path : String) : String :=
  match (path.toList.takeWhile (· = '/')).length with
  | 0 => ""
  | 2 => "//"
  | _ => "/"

def joinParts (parts : List String) : String := "/".intercalate parts

def normalizePath (path : String) : String :=
  let plain := pathRoot path ++ joinParts (pathParts path)
  if plain.isEmpty then "." else plain

def parentPath (path : String) : String :=
  normalizePath (pathRoot path ++ joinParts (pathParts path).dropLast)

inductive Entry where
  | file (c : Content)
  | directory
  | missing
  /-- A file stands where a directory is needed. -/
  | blocked
  | tooLong

def nameLimit : Nat := 255

def pathLimit : Nat := 4096

def isLongName (part : String) : Bool := nameLimit < part.utf8ByteSize

def isLongPath (path : String) : Bool := pathLimit ≤ path.utf8ByteSize

def hasNullByte (path : String) : Bool := path.contains '\x00'

/-- One step upwards; above the working directory the steps are kept. -/
def goUp (root : String) (here : List String) : List String :=
  if root = "" ∧ (here.isEmpty ∨ here.getLast? = some "..") then here ++ [".."] else here.dropLast

def resolve (path : String) : List String :=
  (pathParts path).foldl (fun here part =>
    if part = ".." then goUp (pathRoot path) here else here ++ [part]) []

namespace Files

variable (files : Files) (root : String)

def entryAt (parts : List String) : Entry :=
  if parts.all (· = "..") then .directory
  else
    let path := root ++ joinParts parts
    match files.lookup path with
    | some c => .file c
    | none =>
      if files.any fun (name, _) => name.startsWith (path ++ "/") then .directory else .missing

/-- What stands at the end of a path, if all directories on the way are there. -/
def walk : List String → List String → Entry
  | here, [] => files.entryAt root here
  | here, part :: rest =>
    let next := if part = ".." then goUp root here else here ++ [part]
    if isLongName part then .tooLong
    else if rest.isEmpty then files.entryAt root next
    else match files.entryAt root next with
      | .directory => walk next rest
      | .file _ => .blocked
      | other => other

def entry (path : String) : Entry :=
  if isLongPath path then .tooLong else files.walk (pathRoot path) [] (pathParts path)

end Files

def isJsonPath (path : String) : Bool := (path.map Char.toLower).endsWith ".json"

/-- Deeper lists in a file are not read. -/
def jsonDepth : Nat := 988

def readJson (s : String) : Except Error Json :=
  (Json.readWithin jsonDepth s).mapError fun
    | .integer digits cause => .integer digits cause
    | .tooDeep kind => .jsonTooDeep kind
    | e => .json (e.message s)

/-- How an archive of arrays starts: with a member, or with its directory. -/
def archiveMarks : List String := ["PK\x03\x04", "PK\x05\x06"]

def emptyDirectory : String := "PK\x05\x06".pushn '\x00' 18

/-- The array in a text, which can be one only as an archive without members. -/
def arrayOfText (s : String) : Except Error (Tensor Scalar) :=
  if s.isEmpty then .error .emptyFile
  else if !archiveMarks.any fun m => s.startsWith m then .error .notAnArray
  else if s.endsWith emptyDirectory then .ok ⟨.float64, [0], #[]⟩
  else .error .notAnArchive

def operandOf (isJson : Bool) : Content → Except Error (Tensor Scalar)
  | .text s =>
    if isJson then do Tensor.ofNested (← readJson (String.ofList (Text.plainLines s.toList)))
    else arrayOfText s
  | .array t =>
    if isJson then .error .notUnicode
    else if t.type = .object then .error .objectArray
    else .ok t

def isLongEnding (path : String) : Bool := isLongName ((pathParts path).getLastD "")

namespace Files

variable (files : Files)

def load (path : String) : Except Error (Option (Tensor Scalar)) := do
  if hasNullByte path then throw .nullByte
  match files.entry path with
  | .file c => return some (← operandOf (isJsonPath path) c)
  | .missing => return none
  | .directory => throw (.directory path)
  | .blocked => throw (.notDirectory path)
  | .tooLong => throw (.longName path)

/-- A directory is made with those around it, unless it is there; at most `fuel` of them. -/
def ensure : Nat → String → Except Error Unit
  | 0, _ => .ok ()
  | fuel + 1, path =>
    match files.entry path with
    | .directory => .ok ()
    | .file _ => .error (.occupied path)
    | .blocked => .error (.notDirectory path)
    | .tooLong => .error (.longName path)
    | .missing => do
      ensure fuel (parentPath path)
      if isLongEnding path then throw (.longName path)

def ensureParent (path : String) : Except Error Unit := do
  let parent := parentPath path
  if hasNullByte parent then throw .nullByte
  files.ensure ((pathParts parent).length + 1) parent

/-- Where a result is written, or why it cannot be, its directory being there. -/
def place (path : String) (isJson : Bool) : Except Error String := do
  let name := if isJson || path.endsWith ".npy" then path else path ++ ".npy"
  if hasNullByte name then throw .nullByte
  if isLongPath name || isLongEnding name then throw (.longName name)
  match files.entry name with
  | .directory => throw (.directory name)
  | _ => return pathRoot name ++ joinParts (resolve name)

end Files

def resultContent (t : Tensor Scalar) (isJson : Bool) : Except Error Content :=
  if isJson then
    match t.jsonFault? with
    | some e => .error e
    | none => .ok (.text t.json.pretty)
  else .ok (.array t)

end Einsum.Command
