import OnlineAssembler.CommandLine.Run

namespace OnlineAssembler.CommandLine

partial def readStream (stream : IO.FS.Stream) (bytes : ByteArray) : IO ByteArray := do
  let more ← stream.read 65536
  if more.isEmpty then return bytes else readStream stream (bytes ++ more)

def readErrorOf : IO.Error → ReadError
  | .noFileOrDirectory .. => .notFound
  | .inappropriateType .. => .isDirectory
  | _ => .invalidName

def readInput (source : Text) : IO Input := do
  if source = [] then
    let bytes ← readStream (← IO.getStdin) .empty
    return ⟨bytes.toList, fun _ ↦ .error .notFound⟩
  else
    match ← (IO.FS.readBinFile (String.ofList source)).toBaseIO with
    | .ok bytes => return ⟨[], fun _ ↦ .ok bytes.toList⟩
    | .error e => return ⟨[], fun _ ↦ .error (readErrorOf e)⟩

/-- No program can be started from here, so that every assembly ends with that fault. -/
def hostOf (settings : Settings) : Host :=
  ⟨settings, ⟨"main.s".toList, "main.o".toList⟩, ⟨.notExecuted, .notExecuted⟩⟩

def Cause.message : Cause → String
  | .unreadable _ => "The source cannot be read"
  | .refused e => String.ofList e.message.escaped
  | .noFormat => "There is no format to print in"

end OnlineAssembler.CommandLine

open OnlineAssembler CommandLine

def main (arguments : List String) : IO UInt32 := do
  let names := ["ASM_CC", "ASM_OBJDUMP", "ASM_TIMEOUT", "ASM_DEFAULT_MODE"]
  let environment ← names.filterMapM fun name ↦ do
    return (← IO.getEnv name).map fun value ↦ (name, value.toList)
  let some settings := Settings.ofEnvironment? (List.lookup · environment)
    | IO.eprintln "ASM_TIMEOUT is not a number"
      return 1
  let arguments := arguments.map String.toList
  let input ← match Arguments.parse arguments with
    | .ok a => readInput a.source
    | .error _ => pure ⟨[], fun _ ↦ .error .notFound⟩
  match (run (hostOf settings) input arguments).answer with
  | .ok exit =>
    IO.print (String.ofList exit.stdout)
    IO.eprint (String.ofList exit.stderr)
    return exit.status.toUInt32
  | .error e =>
    IO.print (String.ofList e.stdout)
    IO.eprint (String.ofList e.stderr)
    IO.eprintln e.cause.message
    return 1
