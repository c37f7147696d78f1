import TextShell.Console

/-!
# The program

Reads the arguments, the script or the lines, and prints. What is printed is decided in
`TextShell.Console`.
-/

namespace TextShell.Console

/-- Prints to both channels. -/
def Output.print (output : Output) : IO Unit := do
  let stdout ← IO.getStdout
  stdout.putStr output.stdout
  stdout.flush
  let stderr ← IO.getStderr
  stderr.putStr output.stderr
  stderr.flush

/-- Prints the fault that a run ends with; the answer is the exit code. -/
def printFault (fault : Fault) : IO UInt32 := do
  Output.print ⟨"", fault.kind ++ ": " ++ fault.message ++ "\n"⟩
  return 1

/-- Reads and handles lines until there are no more; the answer is the exit code. -/
partial def interact (format : Option DataFormat) (session : Session Builtin) : IO UInt32 := do
  Output.print ⟨prompt, ""⟩
  let line ← (← IO.getStdin).getLine
  if line.isEmpty then
    Output.print ⟨farewell, ""⟩
    return 0
  else
    match handleLine format session line with
    | .error fault => printFault fault
    | .ok (output, after) =>
      output.print
      match after with
      | some session => interact format session
      | none => return 0

/-- Reads a file. -/
def readFile (path : String) : IO FileReading := do
  try return .content (← IO.FS.readFile path)
  catch
    | .noFileOrDirectory .. => return .missing
    | error => return .failed (.reported "OSError" (toString error))

/-- Runs a script, or reads lines; the answer is the exit code. -/
def execute (arguments : List String) : IO UInt32 := do
  let seed ← IO.rand 0 4294967295
  let format := format? arguments
  let session := start { generator := .ofSeed seed }
  match path? arguments with
  | some path =>
    match runScript format session path (← readFile (Folder.normalPath path)) with
    | .done output code =>
      output.print
      return code.toUInt32
    | .failed fault => printFault fault
  | none =>
    Output.print ⟨greeting, ""⟩
    interact format session

end TextShell.Console

/-- The program. -/
def main (arguments : List String) : IO UInt32 := TextShell.Console.execute arguments
