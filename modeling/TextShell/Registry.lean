import TextShell.Error
import TextShell.Program.Printer

/-!
# The registry of functions

A name has a list of overloads, each of which accepts a range of argument counts. A new overload drives
out those of its name that accept a count in common with it, so at most one accepts any given count. A
script cannot define an overload under a name that has a built-in one.

The type `H` of the built-in functions is left open: the registry keeps them and never calls them.
-/

namespace TextShell

/-- What a function runs. -/
inductive Body (H : Type) where
  /-- A tree. Unless it is a block it cannot be run, and counts as built in. -/
  | script (tree : Node)
  /-- A function from outside. -/
  | host (entry : H)
deriving Repr, Inhabited

/-- One variant of a function. -/
structure Overload (H : Type) where
  params : List Param
  body : Body H
  source : Option String := none
deriving Repr, Inhabited

namespace Overload

variable {H : Type}

/-- Some parameter takes any number of arguments. -/
def isVariadic (o : Overload H) : Bool := o.params.any Param.isVariadic

/-- The least number of arguments. -/
def minArgs (o : Overload H) : Nat :=
  if o.isVariadic then o.params.length - 1 else o.params.length

/-- The greatest number of arguments, if there is one. -/
def maxArgs? (o : Overload H) : Option Nat :=
  if o.isVariadic then none else some o.params.length

/-- The overload is not one that a script runs. -/
def isHost (o : Overload H) : Bool :=
  match o.body with
  | .script tree => !tree.isBlock
  | .host _ => true

/-- The overload takes `count` arguments. -/
def accepts (o : Overload H) (count : Int) : Bool :=
  o.minArgs ≤ count && o.maxArgs?.all fun (most : Nat) => count ≤ most

/-- The ranges of the two overloads meet. -/
def collides (o other : Overload H) : Bool :=
  other.maxArgs?.all (o.minArgs ≤ ·) && o.maxArgs?.all (other.minArgs ≤ ·)

/-- The range of argument counts, as messages give it. -/
def arity (o : Overload H) : String :=
  match o.maxArgs? with
  | none => toString o.minArgs ++ "+"
  | some most => toString o.minArgs ++ "-" ++ toString most

/-- The head of the definition. -/
def signature (o : Overload H) (name : String) : String := TextShell.signature name o.params

/-- The overloads of `name` after `new` is registered among `existing`. -/
def addTo (existing : List (Overload H)) (name : String) (new : Overload H) :
    Except OverloadRejected (List (Overload H)) :=
  if !new.isHost && existing.any isHost then .error ⟨name⟩
  else .ok (existing.filter (fun o => !o.collides new) ++ [new])

/-- The entry of a listing: the source of a script, or the head of a built-in function. -/
def listed (o : Overload H) (name : String) : String :=
  if o.isHost then o.signature name ++ " \x7b\n    // built-in\n\x7d"
  else match o.source with
    | some text => if text.isEmpty then o.signature name else text
    | none => o.signature name

end Overload

/-- Names with their overloads, in the order in which the names came. -/
structure Registry (H : Type) where
  functions : List (String × List (Overload H)) := []
deriving Repr, Inhabited

namespace Registry

variable {H : Type}

/-- The overloads of a name. -/
def overloads? (r : Registry H) (name : String) : Option (List (Overload H)) :=
  r.functions.lookup name

/-- The name has been registered. -/
def contains (r : Registry H) (name : String) : Bool := (r.overloads? name).isSome

/-- The names, sorted. -/
def names (r : Registry H) : List String :=
  (r.functions.map Prod.fst).mergeSort fun a b => a ≤ b

/-- The overload lists with that of `name` replaced, or added at the end. -/
def putOverloads (name : String) (overloads : List (Overload H)) :
    List (String × List (Overload H)) → List (String × List (Overload H))
  | [] => [(name, overloads)]
  | (key, held) :: rest =>
    if name == key then (name, overloads) :: rest
    else (key, held) :: putOverloads name overloads rest

/-- Registers an overload; the answer tells what was done. -/
def register (r : Registry H) (name : String) (overload : Overload H) :
    Except OverloadRejected (Registry H × String) := do
  let current := r.overloads? name
  let overloads ← Overload.addTo (current.getD []) name overload
  let what := if current.isNone then "function" else "overload for"
  return (⟨putOverloads name overloads r.functions⟩,
    "Registered " ++ what ++ " `" ++ name ++ "` (" ++ overload.arity ++ " args)")

/-- Registers a built-in function. -/
def addHost (r : Registry H) (name : String) (params : List String) (entry : H) :
    Except OverloadRejected (Registry H × String) :=
  r.register name ⟨params.map Param.ofText, .host entry, none⟩

/-- The overload that a definition registers. Without a source it keeps its printed form. -/
def ofFunction (f : Function) : Overload H :=
  ⟨f.params, .script f.body, some (f.source.getD f.print)⟩

/-- Registers the definition of a function. -/
def addScript (r : Registry H) (f : Function) : Except OverloadRejected (Registry H × String) :=
  r.register f.name (ofFunction f)

/-- Registers definitions one after the other; nothing is kept of an attempt that is rejected. -/
def addScripts (r : Registry H) : List Function → Except OverloadRejected (Registry H × List String)
  | [] => .ok (r, [])
  | f :: rest => do
    let (next, message) ← r.addScript f
    let (last, messages) ← next.addScripts rest
    return (last, message :: messages)

/-- Registers overloads under their names, up to the first that is rejected. -/
def registerAll (r : Registry H) : List (String × Overload H) → Registry H × Option OverloadRejected
  | [] => (r, none)
  | (name, overload) :: rest =>
    match r.register name overload with
    | .ok (next, _) => next.registerAll rest
    | .error rejected => (r, some rejected)

/-- All overloads with their names, in order. -/
def entries (r : Registry H) : List (String × Overload H) :=
  r.functions.flatMap fun function => function.2.map fun overload => (function.1, overload)

/-- Registers everything that `other` holds. What was registered before a rejection stays. -/
def merge (r other : Registry H) : Registry H × Except OverloadRejected String :=
  let entries := other.entries
  match r.registerAll entries with
  | (merged, none) => (merged, .ok ("Registered " ++ toString entries.length ++ " functions"))
  | (merged, some rejected) => (merged, .error rejected)

/-- The overload of `name` that takes `count` arguments. -/
def resolve (r : Registry H) (name : String) (count : Int) :
    Except ScriptError (Overload H) :=
  match r.overloads? name with
  | none | some [] => .error (.unknownFunction name)
  | some overloads =>
    match overloads.find? fun o => o.accepts count with
    | some o => .ok o
    | none => .error (.noMatchingOverload name count)

/-- What a listing shows. -/
structure ListingFilter where
  hosts : Bool := true
  scripts : Bool := true
  name : Option String := none

/-- The listed functions, sorted by name. -/
def listing (r : Registry H) (filter : ListingFilter := {}) : String :=
  let shown := r.names.filter fun name => filter.name.all (· == name)
  "\n".intercalate (shown.flatMap fun name =>
    ((r.overloads? name).getD []).filterMap fun o =>
      if (if o.isHost then filter.hosts else filter.scripts) then some (o.listed name) else none)

/-- The heads of all functions that scripts have defined, sorted by name. -/
def scriptSignatures (r : Registry H) : List String :=
  r.names.flatMap fun name =>
    (((r.overloads? name).getD []).filter fun o => !o.isHost).map fun o => o.signature name

end Registry

end TextShell
