import TextShell.Registry
import TextShell.World

/-!
# Functions from outside

A host function is called with the caller's registry and the arguments, and answers with data: what
the answer means is the evaluator's business. In this way a host function can ask for a source to be
evaluated without being able to evaluate anything.
-/

namespace TextShell

/-- What a host function answers. -/
inductive Reply where
  | value (v : Value)
  | error (e : ScriptError)
  | fault (f : Fault)
  /-- Something of this kind, which is no value. -/
  | foreign (kind : String)
  /-- The result of this source, run in a session of its own with the caller's functions. -/
  | evaluate (source : String)
deriving Repr, DecidableEq, Inhabited

/-- What the host functions do. -/
structure Host (H : Type) where
  call : H → Registry H → List Value → World → Reply × World

end TextShell
