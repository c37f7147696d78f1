import TextShell.Error
import TextShell.Scope
import TextShell.World
import TextShell.Program.Node

/-!
# Runs

Evaluation answers with a signal instead of unwinding by itself: the enclosing construct decides what
to do with it. A run threads the state through and ends in one of three ways. It is done, with an
answer; a fault was raised, which no construct handles; or the fuel was spent, which says nothing about
the program.
-/

namespace TextShell

/-- An error of a script and the place of the call that met it. -/
structure Failure where
  error : ScriptError
  loc : Option Loc := none
deriving Repr, Inhabited

/-- What evaluation answers. -/
inductive Signal where
  /-- Nothing to contribute. -/
  | proceed
  /-- A value for the enclosing block to append. -/
  | append (v : Value)
  /-- Unwind to the nearest call, which appends the value. -/
  | returned (v : Value)
  /-- The result of the enclosing block so far gives way to the value. -/
  | cleared (v : Value)
  /-- Unwind everything. -/
  | abort (failure : Failure)
deriving Repr, Inhabited

namespace Signal

/-- Drops a value that nobody asked for. -/
def suppress : Signal → Signal
  | .append _ => .proceed
  | other => other

/-- A signal out of a slot that wanted a value. -/
def propagate : Signal → Signal
  | .proceed => .abort { error := .internal "value produced no result" }
  | other => other

end Signal

/-- What evaluation changes. -/
structure State where
  stack : ScopeStack := {}
  /-- The number of script calls that are active. -/
  callDepth : Nat := 0
  world : World := {}
deriving Inhabited

/-- How a run ends. -/
inductive Outcome (α : Type) where
  | done (answer : α) (state : State)
  | raised (fault : Fault) (state : State)
  | outOfFuel
deriving Inhabited

/-- A computation over the state. -/
def Run (α : Type) : Type := State → Outcome α

namespace Run

/-- Answers `a` and changes nothing. -/
protected def pure {α : Type} (a : α) : Run α := fun s => .done a s

/-- One run after the other, unless the first one has no answer. -/
protected def bind {α β : Type} (x : Run α) (f : α → Run β) : Run β := fun s =>
  match x s with
  | .done a t => f a t
  | .raised fault t => .raised fault t
  | .outOfFuel => .outOfFuel

instance : Monad Run where
  pure := Run.pure
  bind := Run.bind

/-- Raises a fault. -/
def raise {α : Type} (fault : Fault) : Run α := fun s => .raised fault s

/-- Changes the state. -/
def change (f : State → State) : Run Unit := fun s => .done () (f s)

/-- Adds a line to the trace. -/
def note (line : String) : Run Unit := change fun s => { s with world := s.world.note line }

/-- Runs `body` from `enter` and puts `leave` behind it, however it ends. -/
def within {α : Type} (enter : State → State) (leave : State → State → State) (body : Run α) :
    Run α := fun s =>
  match body (enter s) with
  | .done a t => .done a (leave s t)
  | .raised fault t => .raised fault (leave s t)
  | .outOfFuel => .outOfFuel

/-- Runs `body` with an empty frame on top, which is dropped afterwards. -/
def inFrame {α : Type} (body : Run α) : Run α :=
  within (fun s => { s with stack := s.stack.push })
    (fun _ t => { t with stack := { t.stack with frames := t.stack.frames.tail } }) body

/-- Runs `body` as that of a call: on a stack of its own over the same globals, with `frame` as its
only frame, and counted as active. -/
def called {α : Type} (frame : Scope) (body : Run α) : Run α :=
  within
    (fun s =>
      { s with
        stack := { s.stack.sibling with frames := [frame] }
        callDepth := s.callDepth + 1 })
    (fun s t =>
      { t with
        stack := { t.stack with frames := s.stack.frames }
        callDepth := t.callDepth - 1 })
    body

end Run

end TextShell
