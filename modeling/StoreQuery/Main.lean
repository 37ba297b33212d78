import StoreQuery.CommandLine

namespace StoreQuery.CommandLine

def textOf (bytes : ByteArray) : Except ReadFailure String :=
  match String.fromUTF8? bytes with
  | some text => .ok text
  | none => .error .notText

def readNamed (path : String) : IO (Except ReadFailure String) := do
  try
    return textOf (← IO.FS.readBinFile path)
  catch
    | .noFileOrDirectory .. => return .error .notFound
    | .permissionDenied .. => return .error .permissionDenied
    | _ => return .error .isDirectory

partial def readAll (stream : IO.FS.Stream) (acc : ByteArray) : IO ByteArray := do
  let chunk ← stream.read 65536
  if chunk.isEmpty then return acc else readAll stream (acc ++ chunk)

def finish (o : Outcome) : IO UInt32 := do
  (← IO.getStdout).putStr o.stdout
  (← IO.getStderr).putStr o.stderr
  return o.exit

end StoreQuery.CommandLine

open StoreQuery.CommandLine in
def main (args : List String) : IO UInt32 := do
  match Command.ofArgs args with
  | .error usage => finish usage.outcome
  | .ok command =>
    let contents ← command.files.mapM fun path => return (path, ← readNamed path)
    let files : Files := fun path => (contents.lookup path).getD (.error .notFound)
    let input ← readAll (← IO.getStdin) .empty
    finish (command.run files (textOf input))
