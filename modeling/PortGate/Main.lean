import PortGate.Command.Run

/-! The command line program: it reads the configuration that the arguments name, and writes what
the run gives. -/

namespace PortGate

def openFile (name : String) : IO FileContent := do
  try
    return .bytes (← IO.FS.readBinFile name).data.toList
  catch e =>
    match e with
    | .permissionDenied .. => return .unreadable .accessDenied
    | .noFileOrDirectory .. => return .unreadable .notFound
    | _ => return .unreadable .isDirectory

def processNumber : IO String := do
  try
    let status ← IO.FS.readFile "/proc/self/stat"
    return String.ofList (status.toList.takeWhile Char.isDigit)
  catch _ => return "0"

end PortGate

open PortGate Command in
def main (args : List String) : IO UInt32 := do
  let content ← match (Invocation.ofArguments args).file? with
    | some name => openFile name
    | none => pure (.unreadable .notFound)
  let ident := programName ++ "[" ++ (← processNumber) ++ "]"
  let transcript := execute ident (fun _ => content) args
  (← IO.getStderr).putStr transcript.errors
  (← IO.getStdout).putStr transcript.outcome.output
  return transcript.outcome.exit.toUInt32
