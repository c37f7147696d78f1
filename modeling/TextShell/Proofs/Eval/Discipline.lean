import Mathlib
import TextShell.Eval.Evaluator

/-!
# What evaluation is made of

Every construct of the evaluator is put together from a few kinds of steps:
it reads variables, changes the world, assigns in the scope it stands in, and
runs parts of itself in a frame, in a call or in a session of their own.  A
`Discipline` is a property of runs that these steps have and that is kept when
they are put together; then evaluation has it as a whole.

There are two sides to such a property.  A value slot is left with the frames
that it was entered with, whereas statements work in the innermost frame.  The
second becomes the first at the one place where a frame is pushed and dropped.

## Main results

* `Discipline.evaluate` — evaluation of a value keeps every discipline.
* `Discipline.evalStatements` — so does a list of statements, in its scope.
-/

namespace TextShell

namespace Run

/-- Answers from the depth of calls and the world, and changes the world. -/
def act {α : Type} (g : Nat → World → α × World) : Run α := fun s =>
  .done (g s.callDepth s.world).1
    { s with world := (g s.callDepth s.world).2 }

/-- Runs `body` in a session of its own, of which only the world is shared. -/
def apart {α : Type} (body : Run α) : Run α :=
  within (fun s => { world := s.world })
    (fun s t => { s with world := t.world }) body

end Run

namespace Evaluator

/-- A property of runs that evaluation keeps: `V` in value slots, `S` among
statements. -/
structure Discipline (V S : (α : Type) → Run α → Prop) : Prop where
  pure {α : Type} (a : α) : V α (pure a)
  raise {α : Type} (fault : Fault) : V α (Run.raise fault)
  stop {α : Type} : V α fun _ => .outOfFuel
  bind {α β : Type} {x : Run α} {f : α → Run β} (hx : V α x)
    (hf : ∀ a, V β (f a)) : V β (x >>= f)
  act {α : Type} (g : Nat → World → α × World) : V α (Run.act g)
  template (t : Template) : V Signal (evalTemplate t)
  apart {α : Type} (x : Run α) : V α (Run.apart x)
  called {α : Type} {x : Run α} (hx : V α x) (frame : Scope) :
    V α (Run.called frame x)
  inFrame {α : Type} {x : Run α} (hx : S α x) : V α (Run.inFrame x)
  ofValue {α : Type} {x : Run α} (hx : V α x) : S α x
  seq {α β : Type} {x : Run α} {f : α → Run β} (hx : S α x)
    (hf : ∀ a, S β (f a)) : S β (x >>= f)
  declare (name : String) (v : Value) :
    S Unit (Run.change fun s => { s with stack := s.stack.declare name v })
  set (name : String) (v : Value) :
    S Unit (Run.change fun s => { s with stack := s.stack.set name v })

/-- What a call makes of the signal of its body. -/
def unwind : Signal → Signal
  | .returned v => .append v
  | other => other

/-- A call of a script's function is its guard, its parameters, and its body
as that of a call. -/
theorem callScript_eq {H : Type} (eval : Context H → Task → Run Signal)
    (ctx : Context H) (loc : Option Loc) (params : List Param) (body : Node)
    (arguments : List Value) :
    callScript eval ctx loc params body arguments = (do
      let depth ← Run.act fun depth world => (depth, world)
      if ctx.maxCallDepth ≤ depth then
        pure (.abort ⟨.callDepthExceeded ctx.maxCallDepth, loc⟩)
      else match bindParams {} params arguments with
        | .error fault => Run.raise fault
        | .ok frame => do
          let signal ← Run.called frame (eval ctx (.value body))
          pure (unwind signal)) := by
  funext s
  change callScript eval ctx loc params body arguments s =
    (if ctx.maxCallDepth ≤ s.callDepth then _ else _ : Run Signal) s
  unfold callScript
  split
  · rfl
  · cases bindParams {} params arguments with
    | error fault => rfl
    | ok frame =>
        change _ = Run.bind _ _ s
        rw [Run.bind]
        dsimp only
        cases Run.called frame (eval ctx (.value body)) s with
        | done signal t => cases signal <;> rfl
        | raised fault t => rfl
        | outOfFuel => rfl

/-- A call of a host function is what the host does to the world, and what its
reply asks for. -/
theorem callHost_eq {H : Type} (host : Host H)
    (eval : Context H → Task → Run Signal) (ctx : Context H) (name : String)
    (loc : Option Loc) (entry : H) (arguments : List Value) :
    callHost host eval ctx name loc entry arguments = (do
      match ← Run.act fun _ => host.call entry ctx.registry arguments with
      | .value v => pure (.append v)
      | .error e => pure (.abort ⟨e, loc⟩)
      | .fault fault => Run.raise fault
      | .foreign kind => pure (.abort
          ⟨.internal ("host function `" ++ name ++ "` returned " ++ kind), loc⟩)
      | .evaluate source => evalSource eval ctx source) := by
  obtain ⟨call⟩ := host
  funext s
  unfold callHost
  change _ = Run.bind _ _ s
  rw [Run.bind, Run.act]
  dsimp only
  generalize call entry ctx.registry arguments s.world = answer
  obtain ⟨reply, world⟩ := answer
  cases reply <;> rfl

namespace Discipline

variable {V S : (α : Type) → Run α → Prop} (D : Discipline V S) {H : Type}
  {host : Host H} {eval : Context H → Task → Run Signal} {ctx : Context H}

include D

theorem withValue {signal : Signal} {next : Value → Run Signal}
    (h : ∀ v, V Signal (next v)) :
    V Signal (Evaluator.withValue signal next) := by
  cases signal with
  | append v => exact h v
  | proceed => exact D.pure _
  | returned v => exact D.pure _
  | cleared v => exact D.pure _
  | abort failure => exact D.pure _

theorem noteAll (lines : List String) : V Unit (Evaluator.noteAll lines) := by
  induction lines with
  | nil => exact D.pure _
  | cons line rest ih =>
      exact D.bind (D.act fun _ world => ((), world.note line)) fun _ => ih

section Value

variable (heval : ∀ ctx node, V Signal (eval ctx (.value node)))

include heval

theorem evalOptional (wrap : Value → Signal) (node : Node) :
    V Signal (Evaluator.evalOptional eval ctx wrap node) := by
  unfold Evaluator.evalOptional
  split
  · exact D.pure _
  · exact D.bind (heval ctx node) fun signal =>
      D.withValue fun v => D.pure _

theorem evalArguments (nodes : List Node) :
    V _ (Evaluator.evalArguments eval ctx nodes) := by
  induction nodes with
  | nil => exact D.pure _
  | cons node rest ih =>
      refine D.bind (heval ctx node) fun signal => ?_
      cases signal with
      | append v =>
          refine D.bind ih fun answer => ?_
          cases answer <;> exact D.pure _
      | proceed => exact D.pure _
      | returned v => exact D.pure _
      | cleared v => exact D.pure _
      | abort failure => exact D.pure _

theorem callScript (loc : Option Loc) (params : List Param) (body : Node)
    (arguments : List Value) :
    V Signal (Evaluator.callScript eval ctx loc params body arguments) := by
  rw [callScript_eq]
  refine D.bind (D.act _) fun depth => ?_
  split
  · exact D.pure _
  · split
    · exact D.raise _
    · exact D.bind (D.called (heval ctx body) _) fun signal => D.pure _

omit heval in
theorem evalSource (source : String) :
    V Signal (Evaluator.evalSource eval ctx source) := by
  unfold Evaluator.evalSource
  split
  · exact D.pure _
  · refine D.bind (D.act fun _ world => ((), world.note _)) fun _ => ?_
    split
    · exact D.pure _
    · split
      · exact D.pure _
      · refine D.bind (D.noteAll _) fun _ => D.bind (D.apart _) fun signal => ?_
        split <;> exact D.pure _

omit heval in
theorem callHost (name : String) (loc : Option Loc) (entry : H)
    (arguments : List Value) :
    V Signal (Evaluator.callHost host eval ctx name loc entry arguments) := by
  rw [callHost_eq]
  refine D.bind (D.act _) fun reply => ?_
  cases reply with
  | value v => exact D.pure _
  | error e => exact D.pure _
  | fault fault => exact D.raise _
  | foreign kind => exact D.pure _
  | evaluate source => exact D.evalSource source

theorem evalCall (name : String) (nodes : List Node) (loc : Option Loc) :
    V Signal (Evaluator.evalCall host eval ctx name nodes loc) := by
  refine D.bind (D.evalArguments heval nodes) fun answer => ?_
  cases answer with
  | error signal => exact D.pure _
  | ok arguments =>
      dsimp only
      cases ctx.registry.resolve name arguments.length with
      | error e => exact D.pure _
      | ok overload =>
          refine D.bind (D.act fun depth world => ((), world.note
            (callLine name arguments.length depth overload.isHost)))
            fun _ => ?_
          cases overload.body with
          | host entry => exact D.callHost name loc entry arguments
          | script tree =>
              dsimp only
              split
              · exact D.callScript heval loc overload.params tree arguments
              · exact D.raise _

theorem evalAssign (target : String) (node : Node) :
    S Signal (Evaluator.evalAssign eval ctx target node) := by
  refine D.seq (D.ofValue (heval ctx node)) fun signal => ?_
  cases signal with
  | append v => exact D.seq (D.set target v) fun _ => D.ofValue (D.pure _)
  | proceed => exact D.ofValue (D.pure _)
  | returned v => exact D.ofValue (D.pure _)
  | cleared v => exact D.ofValue (D.pure _)
  | abort failure => exact D.ofValue (D.pure _)

/-- A statement that is no assignment works as in a value slot. -/
theorem evalStatement_of_value {node : Node}
    (h : ∀ target held loc, node ≠ .assign target held loc) :
    V Signal (Evaluator.evalStatement host eval ctx node) := by
  unfold Evaluator.evalStatement
  split
  · exact D.bind (heval ctx node) fun signal => D.pure _
  · split
    · cases node with
      | assign target held loc => exact absurd rfl (h target held loc)
      | returnWith held loc => exact D.evalOptional heval _ held
      | clearWith held loc => exact D.evalOptional heval _ held
      | call name nodes loc => exact D.evalCall heval name nodes loc
      | _ => exact D.pure _
    · exact D.pure _

theorem evalStatement (node : Node) :
    S Signal (Evaluator.evalStatement host eval ctx node) := by
  by_cases h : ∃ target held loc, node = .assign target held loc
  · obtain ⟨target, held, loc, rfl⟩ := h
    exact D.evalAssign heval target held
  · refine D.ofValue (D.evalStatement_of_value heval ?_)
    exact fun target held loc hnode => h ⟨target, held, loc, hnode⟩

theorem evalStatements (output : Value) (executions : List Node) :
    S Signal (Evaluator.evalStatements host eval ctx output executions) := by
  induction executions generalizing output with
  | nil => exact D.ofValue (D.pure _)
  | cons node rest ih =>
      refine D.seq (D.evalStatement heval node) fun signal => ?_
      cases signal with
      | proceed => exact ih output
      | append v => exact ih (output.append v)
      | cleared v => exact ih v
      | returned v => exact D.ofValue (D.pure _)
      | abort failure => exact D.ofValue (D.pure _)

theorem evalBlock (executions : List Node) :
    V Signal (Evaluator.evalBlock host eval ctx executions) :=
  D.inFrame (D.evalStatements heval Value.truthy executions)

theorem eachPiece (target : String) (body : Node) (output : Value)
    (pieces : List String) :
    V Signal (Evaluator.eachPiece eval ctx target body output pieces) := by
  induction pieces generalizing output with
  | nil => exact D.pure _
  | cons piece rest ih =>
      refine D.bind (D.inFrame (D.seq (D.declare target ⟨piece, 0⟩) fun _ =>
        D.ofValue (heval ctx body))) fun signal => ?_
      exact D.withValue fun v => ih (output.append v)

theorem evalForEach (target : String) (list body separator : Node) :
    V Signal (Evaluator.evalForEach eval ctx target list body separator) := by
  refine D.inFrame (D.ofValue (D.bind (heval ctx list) fun signal =>
    D.withValue fun items => ?_))
  split
  · exact D.eachPiece heval target body Value.truthy _
  · exact D.bind (heval ctx separator) fun signal => D.withValue fun sep =>
      D.eachPiece heval target body Value.truthy _

theorem whileRounds (condition body : Node) (fuel : Nat) (output : Value) :
    V Signal (Evaluator.whileRounds eval ctx condition body fuel output) := by
  induction fuel generalizing output with
  | zero => exact D.stop
  | succ fuel ih =>
      refine D.bind (heval ctx condition) fun signal => D.withValue fun v => ?_
      split
      · exact D.bind (D.inFrame (D.ofValue (heval ctx body))) fun signal =>
          D.withValue fun w => ih (output.append w)
      · exact D.pure _

theorem evalControl (fuel : Nat) (node : Node) :
    V Signal (Evaluator.evalControl eval ctx fuel node) := by
  cases node with
  | forEach target list body separator loc =>
      exact D.evalForEach heval target list body separator
  | ifThen condition body loc =>
      refine D.bind (heval ctx condition) fun signal => D.withValue fun v => ?_
      split
      · exact heval ctx body
      · exact D.pure _
  | ifElse condition trueBody falseBody loc =>
      exact D.bind (heval ctx condition) fun signal =>
        D.withValue fun v => heval ctx _
  | whileLoop condition body loc =>
      exact D.whileRounds heval condition body fuel Value.truthy
  | _ => exact D.pure _

theorem evalValue (fuel : Nat) (node : Node) :
    V Signal (Evaluator.evalValue host eval ctx fuel node) := by
  unfold Evaluator.evalValue
  split
  · exact D.template _
  · exact D.evalBlock heval _
  · split
    · exact D.evalControl heval fuel _
    · exact D.pure _

end Value

/-- Evaluation of a value keeps every discipline, with any fuel. -/
theorem evaluate (host : Host H) (fuel : Nat) (ctx : Context H)
    (node : Node) :
    V Signal (Evaluator.evaluate host fuel ctx (.value node)) := by
  induction fuel generalizing ctx node with
  | zero => exact D.stop
  | succ fuel ih => exact D.evalValue ih fuel node

end Discipline

end Evaluator

end TextShell
