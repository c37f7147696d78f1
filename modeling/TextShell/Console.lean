import TextShell.Builtin.Call
import TextShell.Folder
import TextShell.Interchange
import TextShell.Session

/-!
# The command line

With the path of a script, the script is run and its result printed; without one, lines are read and
handled one after the other in one session, until `exit` or the end of the input. The result is printed
as its text, or as a document if a format is asked for; a result that has no form in that format ends
the run. Reading and printing are left to the caller: everything here is a function from what was read to
what is to be printed.
-/

namespace TextShell.Console

/-- What is to be printed. -/
structure Output where
  stdout : String := ""
  stderr : String := ""
deriving Repr, DecidableEq, Inhabited

/-- One output after the other. -/
def Output.append (a b : Output) : Output := ⟨a.stdout ++ b.stdout, a.stderr ++ b.stderr⟩

instance : Append Output := ⟨Output.append⟩

/-- The format that the arguments ask for. -/
def format? (arguments : List String) : Option DataFormat :=
  if arguments.contains "--yaml" then some .yaml
  else if arguments.contains "--json" then some .json
  else none

/-- The path that the arguments give: the first that is no option. -/
def path? (arguments : List String) : Option String :=
  arguments.find? fun a => a.toList.head? != some '-'

/-- A text as lines that end. -/
def asLine (s : String) : String := if s.toList.getLast? == some '\n' then s else s ++ "\n"

/-- A value in print. -/
def showValue (format : Option DataFormat) (v : Value) : Except Fault String := do
  match format with
  | some format => return asLine (← Interchange.dumpValue v (some format.name))
  | none => return if v.text.isEmpty then "" else asLine v.text

/-- What the effects of a source print. -/
def printed (effects : List Effect) : String :=
  String.join ((effects.filter fun e => e.topics == ["stdout"]).map Effect.message)

/-- A report in print. -/
def showReport (format : Option DataFormat) (r : Report) : Except Fault Output := do
  match r.result with
  | .ok v => return ⟨printed r.effects ++ (← showValue format v), ""⟩
  | .error d => return ⟨printed r.effects, d.describe ++ "\n"⟩

/-- A session with the built-in functions. -/
def start (world : World := {}) : Session Builtin :=
  ({ world := world } : Session Builtin).addLibrary (Builtin.library id)

/-- Line ends of any kind as `\n`. -/
def unifyLineEnds : List Char → List Char
  | [] => []
  | '\r' :: '\n' :: rest => '\n' :: unifyLineEnds rest
  | '\r' :: rest => '\n' :: unifyLineEnds rest
  | c :: rest => c :: unifyLineEnds rest

/-- How a run ends: with what it prints and its exit code, or with a fault. -/
inductive Ending where
  | done (output : Output) (code : Nat)
  | failed (fault : Fault)
deriving Repr, DecidableEq, Inhabited

/-- Runs the script at a path, given what came of reading it. -/
def runScript (format : Option DataFormat) (session : Session Builtin) (path : String) :
    FileReading → Ending
  | .missing => .done ⟨"", "Error: file not found: " ++ path ++ "\n"⟩ 1
  | .failed fault => .failed fault
  | .content text =>
    let (report, _) := session.handle Builtin.host (String.ofList (unifyLineEnds text.toList))
    match showReport format report with
    | .ok output => .done output (if report.result.isOk then 0 else 1)
    | .error fault => .failed fault

/-- What is printed before the first line is read. -/
def greeting : String := "dog REPL v0.1\nType 'exit' or press Ctrl+D to quit.\n"

/-- What is printed before each line is read. -/
def prompt : String := ">> "

/-- What is printed at the end of the input. -/
def farewell : String := "\nExiting.\n"

/-- Handles one line; without a session after it the reading is over. -/
def handleLine (format : Option DataFormat) (session : Session Builtin) (line : String) :
    Except Fault (Output × Option (Session Builtin)) := do
  let source := String.ofList (Text.trim line.toList)
  if source.isEmpty then return ({}, some session)
  else if source == "exit" then return ({}, none)
  else
    let (report, after) := session.handle Builtin.host source
    return (← showReport format report, some after)

/-- Handles lines to the end of the input. -/
def handleLines (format : Option DataFormat) (session : Session Builtin) :
    List String → Except Fault Output
  | [] => return ⟨prompt ++ farewell, ""⟩
  | line :: rest => do
    let (output, after) ← handleLine format session line
    let later ← match after with
      | some after => handleLines format after rest
      | none => pure {}
    return ⟨prompt, ""⟩ ++ output ++ later

/-- The lines of an input, without their ends. What follows the last end is a line if it is not
empty. -/
def inputLines (input : String) : List String :=
  let lines := (input.toList.splitOn '\n').map String.ofList
  if lines.getLast? == some "" then lines.dropLast else lines

/-- A whole run in a folder. -/
def run (arguments : List String) (files : Folder) (input : String) : Ending :=
  let format := format? arguments
  match path? arguments with
  | some path => runScript format start path (files.read path)
  | none =>
    match handleLines format start (inputLines input) with
    | .ok output => .done (⟨greeting, ""⟩ ++ output) 0
    | .error fault => .failed fault

end TextShell.Console
