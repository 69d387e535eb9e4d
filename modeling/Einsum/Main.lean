import Einsum.Command.Run
import Einsum.Log.Stamp
import Einsum.Tensor.Bytes
import Std.Time.DateTime.Timestamp

/-!
The program: files are read before the command runs and written after it.
-/

namespace Einsum.Command

def mentioned (words : List String) : List String :=
  match invocation words with
  | .ok { task := .run o, .. } => (o.operands ++ o.out.toList).map normalizePath
  | _ => []

def ancestry (path : String) : List String :=
  (List.range ((pathParts path).length + 1)).map fun n =>
    pathRoot path ++ joinParts ((pathParts path).take n)

def contentOf (path : String) (bytes : ByteArray) : Content :=
  if isJsonPath path then .text ((String.fromUTF8? bytes).getD "")
  else match Bytes.decode bytes.toList with
    | .ok t => .array t
    | .error .emptyFile => .text ""
    | .error _ => .text "?"

def survey (path : String) : IO Files := do
  let name := pathRoot path ++ joinParts (resolve path)
  try
    return [(name, contentOf path (← IO.FS.readBinFile path))]
  catch _ =>
    return []

def surveyAll (paths : List String) : IO Files := do
  let found ← (paths.flatMap ancestry).mapM survey
  return found.flatten

def store (path : String) : Content → IO Unit
  | .text s => IO.FS.writeFile path s
  | .array t =>
    match Bytes.encode? t with
    | some bytes => IO.FS.writeBinFile path ⟨bytes.toArray⟩
    | none => throw (IO.userError s!"{path}: an array of objects cannot be stored")

def finish : Exit → IO UInt32
  | .code n => return .ofNat n
  | .message s => do
    IO.eprintln s
    return 1
  | .failure e => do
    IO.eprintln e.message
    return 1

end Einsum.Command

open Einsum Command in
def main (words : List String) : IO UInt32 := do
  let files ← surveyAll (mentioned words)
  let now ← Std.Time.Timestamp.now
  let stamp := Log.stampText (now.toNanosecondsSinceUnixEpoch.val.toNat / 1000)
  let (exit, output) := execute files stamp words
  for (path, content) in output.written do
    IO.FS.createDirAll (parentPath path)
    store path content
  IO.print output.stdout
  IO.eprint output.stderr
  finish exit
