import TextShell.Eval.Host
import TextShell.Eval.Run
import TextShell.Program.Grammar

/-!
# The evaluator

What each construct does, given how its parts are evaluated. The recursion runs through one parameter,
`eval`, and `evaluate` ties the knot by fuel, since function bodies are found by name and loops may go
on for ever; enough fuel is one that is not spent.

The slots of statements differ from those of values in that a block or a control statement there is
run for its effect, and its value is dropped.
-/

namespace TextShell

/-- What stays the same during an execution. -/
structure Context (H : Type) where
  registry : Registry H
  maxCallDepth : Int

/-- The number of script calls that may be active at a time. -/
def standardCallDepth : Int := 1000

/-- What is asked of the evaluator. -/
inductive Task where
  /-- A node in a slot that wants a value. -/
  | value (node : Node)
  /-- Statements, in the scopes as they are. -/
  | statements (executions : List Node)
deriving Repr, Inhabited

namespace Evaluator

/-- Goes on with the value of a signal; any other signal leaves the slot. -/
def withValue (signal : Signal) (next : Value → Run Signal) : Run Signal :=
  match signal with
  | .append v => next v
  | other => pure other.propagate

/-- The signal of an error in the tree. -/
def confused (what : String) (node : Node) : Run Signal :=
  pure (.abort { error := .internal (what ++ " " ++ node.kind) })

/-- The value of the pieces of a template, behind `output`. -/
def expandPieces (stack : ScopeStack) (output : Value) : List (RegionKind × String) → Signal
  | [] => .append output
  | (.literal, text) :: rest => expandPieces stack (output.append ⟨text, 0⟩) rest
  | (.variable, name) :: rest =>
    match stack.get? name with
    | some v => expandPieces stack (output.append v) rest
    | none => .abort { error := .undeclaredVariable name }

/-- A template in the current scopes. -/
def evalTemplate (t : Template) : Run Signal := fun s =>
  .done (expandPieces s.stack Value.truthy t.pieces) s

/-- The frame of a call: each parameter takes one argument, and a variadic one all that are left,
joined; the parameters behind it are not bound. -/
def bindParams (frame : Scope) : List Param → List Value → Except Fault Scope
  | [], _ => .ok frame
  | param :: params, arguments =>
    if param.isVariadic then .ok (frame.put param.name (Value.join arguments))
    else match arguments with
      | [] => .error (.reported "IndexError" "pop from empty list")
      | v :: rest => bindParams (frame.put param.name v) params rest

/-- The line that traces a call. -/
def callLine (name : String) (count depth : Nat) (isHost : Bool) : String :=
  "call " ++ name ++ " argc " ++ toString count ++ " depth " ++ toString depth ++ " " ++
    (if isHost then "host" else "script")

/-- Notes each line in the trace. -/
def noteAll : List String → Run Unit
  | [] => pure ()
  | line :: rest => do
    Run.note line
    noteAll rest

/-- What the signal of statements at the top level comes to. -/
def topLevel : Signal → Except Failure Value
  | .append v | .returned v => .ok v
  | .abort failure => .error failure
  | .proceed => .error { error := .internal "unexpected top-level signal Proceed" }
  | .cleared _ => .error { error := .internal "unexpected top-level signal Clear" }

section Constructs

variable {H : Type} (host : Host H) (eval : Context H → Task → Run Signal) (ctx : Context H)

/-- The value of `return` and `clear`: an empty one where there is none. -/
def evalOptional (wrap : Value → Signal) (node : Node) : Run Signal :=
  if node.isAbsent then pure (wrap Value.truthy)
  else do
    let signal ← eval ctx (.value node)
    withValue signal fun v => pure (wrap v)

/-- An assignment. -/
def evalAssign (target : String) (node : Node) : Run Signal := do
  let signal ← eval ctx (.value node)
  withValue signal fun v => do
    Run.change fun s => { s with stack := s.stack.set target v }
    pure .proceed

/-- The arguments of a call, from left to right, up to the first that is no value. -/
def evalArguments : List Node → Run (Except Signal (List Value))
  | [] => pure (.ok [])
  | node :: rest => do
    match ← eval ctx (.value node) with
    | .append v =>
      match ← evalArguments rest with
      | .ok values => pure (.ok (v :: values))
      | .error signal => pure (.error signal)
    | other => pure (.error other.propagate)

/-- A call of a function that a script has defined. -/
def callScript (loc : Option Loc) (params : List Param) (body : Node) (arguments : List Value) :
    Run Signal := fun s =>
  if ctx.maxCallDepth ≤ s.callDepth then
    .done (.abort ⟨.callDepthExceeded ctx.maxCallDepth, loc⟩) s
  else match bindParams {} params arguments with
    | .error fault => .raised fault s
    | .ok frame =>
      match Run.called frame (eval ctx (.value body)) s with
      | .done (.returned v) t => .done (.append v) t
      | other => other

/-- A source in a session of its own, with the functions of the caller. Whatever goes wrong with it is
the text of a failed value. -/
def evalSource (source : String) : Run Signal :=
  match ({} : Registry H).merge ctx.registry with
  | (_, .error rejected) => pure (.append (Value.falsy rejected.describe))
  | (registry, .ok message) => do
    Run.note ("[runtime] " ++ message)
    match Program.parse source with
    | .error e => pure (.append (Value.falsy ("SyntaxError: " ++ e.message)))
    | .ok program =>
      match registry.addScripts program.functions with
      | .error rejected => pure (.append (Value.falsy rejected.describe))
      | .ok (registry, messages) =>
        noteAll (messages.map ("[runtime] " ++ ·))
        let signal ← Run.within (fun s => { world := s.world }) (fun s t => { s with world := t.world })
          (eval ⟨registry, standardCallDepth⟩ (.statements program.executions))
        match topLevel signal with
        | .ok v => pure (.append v)
        | .error failure => pure (.append (Value.falsy failure.error.describe))

/-- A call of a host function. -/
def callHost (name : String) (loc : Option Loc) (entry : H) (arguments : List Value) :
    Run Signal := fun s =>
  let (reply, world) := host.call entry ctx.registry arguments s.world
  let s := { s with world := world }
  match reply with
  | .value v => .done (.append v) s
  | .error e => .done (.abort ⟨e, loc⟩) s
  | .fault fault => .raised fault s
  | .foreign kind =>
    .done (.abort ⟨.internal ("host function `" ++ name ++ "` returned " ++ kind), loc⟩) s
  | .evaluate source => evalSource eval ctx source s

/-- A call: its arguments, then the overload that takes as many, then its body. -/
def evalCall (name : String) (nodes : List Node) (loc : Option Loc) : Run Signal := do
  match ← evalArguments eval ctx nodes with
  | .error signal => pure signal
  | .ok arguments =>
    match ctx.registry.resolve name arguments.length with
    | .error e => pure (.abort ⟨e, loc⟩)
    | .ok overload =>
      Run.change fun s =>
        { s with
          world := s.world.note (callLine name arguments.length s.callDepth overload.isHost) }
      match overload.body with
      | .host entry => callHost host eval ctx name loc entry arguments
      | .script tree =>
        if tree.isBlock then callScript eval ctx loc overload.params tree arguments
        else Run.raise (.notCallable tree.kind)

/-- Open statements. -/
def evalOpen (node : Node) : Run Signal :=
  match node with
  | .assign target held _ => evalAssign eval ctx target held
  | .returnWith held _ => evalOptional eval ctx .returned held
  | .clearWith held _ => evalOptional eval ctx .cleared held
  | .call name nodes loc => evalCall host eval ctx name nodes loc
  | other => confused "unknown statement" other

/-- One statement: an open one contributes, a block or a control statement runs for its effect. -/
def evalStatement (node : Node) : Run Signal :=
  if node.isBlock || node.isControl then do
    let signal ← eval ctx (.value node)
    pure signal.suppress
  else if node.isOpen then evalOpen host eval ctx node
  else confused "unknown statement" node

/-- The statements of a list, behind the result `output` of those before it. -/
def evalStatements (output : Value) : List Node → Run Signal
  | [] => pure (.append output)
  | node :: rest => do
    match ← evalStatement host eval ctx node with
    | .proceed => evalStatements output rest
    | .append v => evalStatements (output.append v) rest
    | .cleared v => evalStatements v rest
    | other => pure other

/-- A block: its statements in a frame of their own. -/
def evalBlock (executions : List Node) : Run Signal :=
  Run.inFrame (evalStatements host eval ctx Value.truthy executions)

/-- The pieces of a loop that are left, behind the result so far. Each runs in a frame of its own that
binds the loop's variable. -/
def eachPiece (target : String) (body : Node) (output : Value) : List String → Run Signal
  | [] => pure (.append output)
  | piece :: rest => do
    let signal ← Run.inFrame do
      Run.change fun s => { s with stack := s.stack.declare target ⟨piece, 0⟩ }
      eval ctx (.value body)
    match signal with
    | .append v => eachPiece target body (output.append v) rest
    | other => pure other.propagate

/-- A loop over the pieces of a value. -/
def evalForEach (target : String) (list body separator : Node) : Run Signal :=
  Run.inFrame do
    let signal ← eval ctx (.value list)
    withValue signal fun items =>
      if separator.isAbsent then eachPiece eval ctx target body Value.truthy items.split
      else do
        let signal ← eval ctx (.value separator)
        withValue signal fun sep =>
          eachPiece eval ctx target body Value.truthy (items.split (some sep.text))

/-- A conditional without `else`; where the condition fails, so does the result. -/
def evalIfThen (condition body : Node) : Run Signal := do
  let signal ← eval ctx (.value condition)
  withValue signal fun v =>
    if v.isTruthy then eval ctx (.value body) else pure (.append Value.falsy)

/-- A conditional with `else`. -/
def evalIfElse (condition trueBody falseBody : Node) : Run Signal := do
  let signal ← eval ctx (.value condition)
  withValue signal fun v => eval ctx (.value (if v.isTruthy then trueBody else falseBody))

/-- The rounds of a loop, at most `fuel`, behind the result so far. -/
def whileRounds (condition body : Node) : Nat → Value → Run Signal
  | 0, _ => fun _ => .outOfFuel
  | fuel + 1, output => do
    match ← eval ctx (.value condition) with
    | .append v =>
      if v.isTruthy then
        match ← Run.inFrame (eval ctx (.value body)) with
        | .append w => whileRounds condition body fuel (output.append w)
        | other => pure other.propagate
      else pure (.append output)
    | other => pure other.propagate

/-- Control statements, with at most `fuel` rounds of a loop. -/
def evalControl (fuel : Nat) (node : Node) : Run Signal :=
  match node with
  | .forEach target list body separator _ => evalForEach eval ctx target list body separator
  | .ifThen condition body _ => evalIfThen eval ctx condition body
  | .ifElse condition trueBody falseBody _ => evalIfElse eval ctx condition trueBody falseBody
  | .whileLoop condition body _ => whileRounds eval ctx condition body fuel Value.truthy
  | other => confused "unknown control statement" other

/-- A node in a slot that wants a value. -/
def evalValue (fuel : Nat) (node : Node) : Run Signal :=
  match node with
  | .template t => evalTemplate t
  | .block executions _ => evalBlock host eval ctx executions
  | other =>
    if other.isControl then evalControl eval ctx fuel other
    else confused "unknown value node" other

/-- One task, with at most `fuel` rounds of a loop. -/
def evalTask (fuel : Nat) : Task → Run Signal
  | .value node => evalValue host eval ctx fuel node
  | .statements executions => evalStatements host eval ctx Value.truthy executions

end Constructs

section Knot

variable {H : Type} (host : Host H)

/-- The evaluator with this much fuel. -/
def evaluate : Nat → Context H → Task → Run Signal
  | 0, _, _ => fun _ => .outOfFuel
  | fuel + 1, ctx, task => evalTask host (evaluate fuel) ctx fuel task

/-- Executes statements at the top level. -/
def execute (fuel : Nat) (ctx : Context H) (executions : List Node) :
    Run (Except Failure Value) := do
  let signal ← evaluate host fuel ctx (.statements executions)
  pure (topLevel signal)

end Knot

end Evaluator

/-- Fuel for executions that are meant to end. -/
def standardFuel : Nat := 1000000000000000000

end TextShell
