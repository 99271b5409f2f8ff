import PrintProxy.CommandLine.Run
import PrintProxy.UserName

/-!
# The command

Hands the words of the command line, the environment, files and standard input to
the library and prints what it answers.
-/

namespace PrintProxy

def readFile (path : String) : IO (Except Fault Bytes) := do
  try
    let content ← IO.FS.readBinFile path
    return .ok content.toList
  catch failure => return .error (.io (toString failure))

partial def readToEnd (stream : IO.FS.Stream) (readBefore : ByteArray) : IO ByteArray := do
  let chunk ← stream.read 65536
  if chunk.isEmpty then return readBefore else readToEnd stream (readBefore ++ chunk)

/-- The octets that a command prints from standard input, read only if it prints them. -/
def readStandardInput (line : CommandLine) : IO Bytes := do
  match line.command with
  | .print _ none _ _ _ =>
      let content ← readToEnd (← IO.getStdin) ByteArray.empty
      return content.toList
  | _ => return []

def printedFile? (line : CommandLine) : Option String :=
  match line.command with
  | .print _ file _ _ _ => file
  | _ => none

end PrintProxy

open PrintProxy in
/-- Carries out a command line. -/
def main (arguments : List String) : IO UInt32 := do
  let names ← userVariables.mapM fun name => do return (name, ← IO.getEnv name)
  let user := userName fun name => (names.lookup name).join
  let (input, file) ←
    match CommandLine.parse arguments with
    | .ok line => do
        let input ← readStandardInput line
        let file ← (printedFile? line).mapM readFile
        pure (input, file)
    | .error _ => pure ([], none)
  let outcome := CommandLine.run arguments
    { files := fun path => file.getD (.error (.io path))
      standardInput := .ok input
      user
      connection := Connection.unavailable
      clock := (← IO.monoMsNow) / 1000 }
  (← IO.getStdout).putStr outcome.output
  (← IO.getStderr).putStr outcome.complaint
  return UInt32.ofNat outcome.exitCode
