import TopDown.Command.Execution
/-!
The program: its arguments, a rule text from a file or from standard input, and the log
specification of the environment. Answers go to standard output, log records to standard error.
-/

set_option autoImplicit false

namespace TopDown.Command

def decodeText (bytes : ByteArray) : Except SourceFault String :=
  match String.fromUTF8? bytes with
  | some text => .ok text
  | none => .error .invalidText

def faultOf : IO.Error → SourceFault
  | .noFileOrDirectory .. => .notFound
  | .permissionDenied .. => .denied
  | error => .other error.toString

def readStream (stream : IO.FS.Stream) : IO ByteArray := do
  let mut bytes := ByteArray.empty
  let mut chunk ← stream.read 65536
  while chunk.size ≠ 0 do
    bytes := bytes ++ chunk
    chunk ← stream.read 65536
  return bytes

def readSource (path : Option String) : IO (Except SourceFault String) := do
  match path with
  | none => return decodeText (← readStream (← IO.getStdin))
  | some path =>
      try
        return decodeText (← IO.FS.readBinFile path)
      catch error =>
        return .error (faultOf error)

def report (outcome : Outcome) : IO UInt32 := do
  for record in outcome.records do
    IO.eprintln (record.level.name ++ " " ++ record.origin.target ++ " > " ++ record.message)
  IO.print outcome.output
  return if outcome.success then 0 else 1

end TopDown.Command

open TopDown.Command in
def main (arguments : List String) : IO UInt32 := do
  match readArguments arguments with
  | .error _ =>
      IO.eprint usage
      return 1
  | .ok .help =>
      IO.print usage
      return 0
  | .ok .version =>
      IO.print version
      return 0
  | .ok (.run invocation) =>
      let source ← readSource invocation.grammarPath
      report (run invocation source ((← IO.getEnv "RUST_LOG").getD ""))
