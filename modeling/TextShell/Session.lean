import TextShell.Document.Convert
import TextShell.Eval.Evaluator
import TextShell.Excerpt

/-!
# Sessions

A session keeps the functions and the global variables from one source to the next. A source is read,
its functions are registered together, and then its statements are executed; a source that cannot be
read, or whose functions are rejected, changes nothing. The effects of a source are those since it was
handed over, and an error is one of them.
-/

namespace TextShell

/-- What is kept between sources. -/
structure Session (H : Type) where
  registry : Registry H := {}
  globals : Scope := {}
  world : World := {}
  maxCallDepth : Int := standardCallDepth

/-- The message about an error, with its place where a line is known. -/
def placedMessage (message : String) (line col : Option String) : String :=
  match line with
  | some line =>
    if "Error on line ".isPrefixOf message then message
    else
      let column := match col with
        | some col => ", col " ++ col
        | none => ""
      "Error on line " ++ line ++ column ++ ": " ++ message
  | none => message

/-- A field of a place as text; `none` if the place does not have it. -/
def placeField (place : Document) (name : String) : Except Fault (Option String) :=
  match (place.field? name).getD .null with
  | .null => .ok none
  | d => return some (← d.toText)

/-- The message about an error that comes as data, as does its place. A message that is nothing is
unknown. -/
def describeError (message place : Document) : Except Fault String := do
  let message ← if message.isTruthy then message.toText else pure "Unknown error"
  match place with
  | .mapping _ => return placedMessage message (← placeField place "line") (← placeField place "col")
  | other => if other.isTruthy then .error (Literal.lacks other "get") else return message

/-- An error that ended a source. -/
structure Diagnosis where
  message : String
  loc : Option Loc := none
deriving Repr, Inhabited

/-- An error as one line. -/
def Diagnosis.describe (d : Diagnosis) : String :=
  match describeError (.text d.message) (d.loc.getD .null) with
  | .ok line => line
  | .error _ => d.message

/-- What came of a source. -/
structure Report where
  result : Except Diagnosis Value
  effects : List Effect

/-- The error of a report as one line; empty if there is none. -/
def Report.describeError (r : Report) : String :=
  match r.result with
  | .ok _ => ""
  | .error d => d.describe

namespace Session

variable {H : Type}

/-- Registers a library. -/
def addLibrary (s : Session H) (library : Registry H) : Session H :=
  match s.registry.merge library with
  | (registry, .ok message) =>
    { s with registry := registry, world := s.world.note ("[runtime] " ++ message) }
  | (registry, .error _) => { s with registry := registry }

/-- Registers functions together. -/
def addFunctions (s : Session H) (functions : List Function) :
    Except OverloadRejected (Session H × List String) := do
  let (registry, messages) ← s.registry.addScripts functions
  let world := messages.foldl (fun w message => w.note ("[runtime] " ++ message)) s.world
  return ({ s with registry := registry, world := world }, messages)

/-- What stays the same during an execution. -/
def context (s : Session H) : Context H := ⟨s.registry, s.maxCallDepth⟩

/-- Runs a computation on the globals of the session, without frames. The last answer is the state that
it has left. -/
def perform {α : Type} (s : Session H) (body : Run α) :
    Except Fault α × Session H × State :=
  let start : State := { stack := { globals := s.globals }, world := s.world }
  let settle (t : State) : Session H := { s with globals := t.stack.globals, world := t.world }
  match body start with
  | .done answer t => (.ok answer, settle t, t)
  | .raised fault t => (.error fault, settle t, t)
  | .outOfFuel => (.error .outOfFuel, s, start)

/-- Executes statements. -/
def execute (host : Host H) (s : Session H) (executions : List Node) :
    Except Fault (Except Failure Value) × Session H :=
  let (result, after, _) := s.perform (Evaluator.execute host standardFuel s.context executions)
  (result, after)

/-- The report of an error, which is an effect as well. -/
def fail (s : Session H) (message : String) (loc : Option Loc := none) : Report × Session H :=
  let s := { s with world := s.world.emit "stderr" message }
  (⟨.error ⟨message, loc⟩, s.world.effects⟩, s)

/-- Handles a source. -/
def handle (host : Host H) (s : Session H) (source : String) : Report × Session H :=
  let s := { s with world := s.world.clearEffects }
  match Program.parse source with
  | .error e => s.fail (Excerpt.parseError e.message e.line.integer? e.col.integer? source)
  | .ok program =>
    match s.addFunctions program.functions with
    | .error rejected => s.fail rejected.describe
    | .ok (s, _) =>
      match s.execute host program.executions with
      | (.ok (.ok v), s) => (⟨.ok v, s.world.effects⟩, s)
      | (.ok (.error failure), s) => s.fail failure.error.describe failure.loc
      | (.error fault, s) => s.fail ("InternalError: " ++ fault.kind ++ ": " ++ fault.message)

/-- What a function comes to when it is called from outside. -/
inductive CallResult where
  | value (v : Value)
  | error (e : ScriptError)
  | fault (f : Fault)
  /-- Something of this kind, which is no value. -/
  | foreign (kind : String)
deriving Repr, DecidableEq, Inhabited

/-- Calls a host function from outside. A function that a script has defined cannot be called in this
way. -/
def call (host : Host H) (s : Session H) (name : String) (arguments : List Value) :
    CallResult × Session H :=
  match s.registry.resolve name arguments.length with
  | .error e => (.error e, s)
  | .ok overload =>
    match overload.body with
    | .script tree => (.fault (.notCallable tree.kind), s)
    | .host entry =>
      let (reply, world) := host.call entry s.registry arguments s.world
      let s := { s with world := world }
      match reply with
      | .value v => (.value v, s)
      | .error e => (.error e, s)
      | .fault f => (.fault f, s)
      | .foreign kind => (.foreign kind, s)
      | .evaluate source =>
        match s.perform (Evaluator.evalSource (Evaluator.evaluate host standardFuel) s.context source) with
        | (.ok (.append v), s, _) => (.value v, s)
        | (.ok _, s, _) => (.foreign "NoneType", s)
        | (.error f, s, _) => (.fault f, s)

end Session

end TextShell
