import TextShell.Network.Retry

/-!
# What a session does to the outside

The effects of a session, in the order in which they happen: what it prints, what it traces, what it
does on the network, and the random numbers it draws. The evaluator passes a world along and never
looks at it.
-/

namespace TextShell

/-- A message under topics such as `stdout`. -/
structure Effect where
  topics : List String
  message : String
deriving Repr, DecidableEq, Inhabited

/-- What random numbers are drawn from: how a bound and a state give a number below the bound and the
next state. -/
structure Generator where
  state : Nat
  next : Nat → Nat → Nat × Nat
  lt_of_pos : ∀ bound state, 0 < bound → (next bound state).1 < bound

/-- A linear congruential sequence. -/
def Generator.ofSeed (seed : Nat) : Generator where
  state := seed
  next bound state :=
    let next := (state * 6364136223846793005 + 1442695040888963407) % 18446744073709551616
    (next / 65536 % bound, next)
  lt_of_pos _ _ h := Nat.mod_lt _ h

instance : Inhabited Generator := ⟨.ofSeed 0⟩

/-- The outside as a session has left it. What was sent and what was traced is kept latest first, so
that a world from before can be kept at no cost. -/
structure World where
  sent : List Effect := []
  traced : List String := []
  network : Network := {}
  environment : Environment := []
  generator : Generator := .ofSeed 0
deriving Inhabited

namespace World

/-- Sends a message under one topic. -/
def emit (w : World) (topic message : String) : World :=
  { w with sent := ⟨[topic], message⟩ :: w.sent }

/-- The messages in the order in which they were sent. -/
def effects (w : World) : List Effect := w.sent.reverse

/-- Forgets the messages that were sent. -/
def clearEffects (w : World) : World := { w with sent := [] }

/-- Adds a line to the trace. -/
def note (w : World) (line : String) : World :=
  { w with traced := ("[DBG] " ++ line) :: w.traced }

/-- The lines of the trace in order. -/
def trace (w : World) : List String := w.traced.reverse

/-- Draws a number below `bound`. -/
def draw (w : World) (bound : Nat) : Nat × World :=
  let (number, state) := w.generator.next bound w.generator.state
  (number, { w with generator := { w.generator with state := state } })

end World

end TextShell
