import TextShell.Fault
import TextShell.Value.Basic

/-!
# Scopes

A scope binds names to values. A stack of scopes is the global one, which lives as long as the
session, and frames above it, innermost first. Assignment changes the nearest visible binding, and
makes a new one, in the innermost frame, only where the name is not visible at all; declaration always
binds in the innermost frame.
-/

namespace TextShell

/-- Names with their values; each name once. -/
structure Scope where
  bindings : List (String × Value) := []
deriving Repr, DecidableEq, Inhabited

namespace Scope

/-- The value of a name. -/
def get? (scope : Scope) (name : String) : Option Value := scope.bindings.lookup name

/-- The name is bound. -/
def contains (scope : Scope) (name : String) : Bool := (scope.get? name).isSome

/-- The bindings with `name` bound to `value`, in its old place if it was bound. -/
def putBinding (name : String) (value : Value) : List (String × Value) → List (String × Value)
  | [] => [(name, value)]
  | (key, held) :: rest =>
    if name == key then (name, value) :: rest else (key, held) :: putBinding name value rest

/-- Binds a name. -/
def put (scope : Scope) (name : String) (value : Value) : Scope :=
  ⟨putBinding name value scope.bindings⟩

/-- The bindings by name. -/
def sorted (scope : Scope) : List (String × Value) :=
  scope.bindings.mergeSort fun a b => a.1 ≤ b.1

end Scope

/-- The global scope and the frames above it, innermost first. -/
structure ScopeStack where
  globals : Scope := {}
  frames : List Scope := []
deriving Repr, DecidableEq, Inhabited

namespace ScopeStack

/-- How many frames there are. -/
def depth (stack : ScopeStack) : Nat := stack.frames.length

/-- The stack of a callee: the same globals, and none of the caller's frames. -/
def sibling (stack : ScopeStack) : ScopeStack := { globals := stack.globals }

/-- Adds an empty frame. -/
def push (stack : ScopeStack) : ScopeStack := { stack with frames := {} :: stack.frames }

/-- Drops the innermost frame. -/
def pop (stack : ScopeStack) : Except Fault ScopeStack :=
  match stack.frames with
  | [] => .error .emptyScopeStack
  | _ :: outer => .ok { stack with frames := outer }

/-- The value of the innermost frame that binds the name. -/
def getInFrames? (name : String) : List Scope → Option Value
  | [] => none
  | frame :: outer =>
    match frame.get? name with
    | some v => some v
    | none => getInFrames? name outer

/-- The value of a name, from the nearest scope that binds it. -/
def get? (stack : ScopeStack) (name : String) : Option Value :=
  match getInFrames? name stack.frames with
  | some v => some v
  | none => stack.globals.get? name

/-- The name is visible. -/
def contains (stack : ScopeStack) (name : String) : Bool := (stack.get? name).isSome

/-- Binds the name in the innermost frame, over any outer binding. -/
def declare (stack : ScopeStack) (name : String) (value : Value) : ScopeStack :=
  match stack.frames with
  | [] => { stack with globals := stack.globals.put name value }
  | frame :: outer => { stack with frames := frame.put name value :: outer }

/-- The frames with the nearest binding of `name` changed, if one of them binds it. -/
def setInFrames? (name : String) (value : Value) : List Scope → Option (List Scope)
  | [] => none
  | frame :: outer =>
    if frame.contains name then some (frame.put name value :: outer)
    else (setInFrames? name value outer).map (frame :: ·)

/-- Changes the nearest binding of the name, or declares it. -/
def set (stack : ScopeStack) (name : String) (value : Value) : ScopeStack :=
  match setInFrames? name value stack.frames with
  | some frames => { stack with frames := frames }
  | none =>
    if stack.globals.contains name then { stack with globals := stack.globals.put name value }
    else stack.declare name value

end ScopeStack

end TextShell
