import TextShell.Document.Basic

/-!
# The network

Requests go to a line of outcomes that is fixed beforehand: each request takes the next one, and when
there is none left it fails to connect. Between requests there are pauses, which a clock makes or
refuses. Everything that is done is kept in a log.
-/

namespace TextShell

/-- How a request can fail before there is a response. -/
inductive TransportFailure where
  | connect | timeout | invalidUrl | runtime | value | system
deriving Repr, DecidableEq, Inhabited

namespace TransportFailure

/-- The kind under which a failure is reported. -/
def kind : TransportFailure → String
  | .connect => "ConnectError"
  | .timeout => "ReadTimeout"
  | .invalidUrl => "InvalidURL"
  | .runtime => "RuntimeError"
  | .value => "ValueError"
  | .system => "OSError"

/-- Failures after which a request is worth repeating. -/
def isRetryable : TransportFailure → Bool
  | .connect | .timeout | .runtime => true
  | _ => false

/-- Failures that a script sees as a failed value. -/
def isCaught : TransportFailure → Bool
  | .system => false
  | _ => true

end TransportFailure

/-- What a request comes to. -/
inductive RequestOutcome where
  | response (status : Int) (text : String)
  | failure (kind : TransportFailure) (text : String)
deriving Repr, DecidableEq, Inhabited

/-- Why a pause is not made, and whether a script sees that as a failed value. -/
structure PauseRefusal where
  fault : Fault
  isCaught : Bool
deriving Repr, DecidableEq, Inhabited

namespace PauseRefusal

/-- The pause is no number of seconds. -/
def notANumber : PauseRefusal :=
  ⟨.reported "ValueError" "Invalid value NaN (not a number)", true⟩

/-- The pause is longer than is counted. -/
def outOfRange : PauseRefusal :=
  ⟨.reported "OverflowError" "timestamp out of range for platform time_t", false⟩

/-- The pause is shorter than none. -/
def negative : PauseRefusal :=
  ⟨.reported "ValueError" "sleep length must be non-negative", true⟩

end PauseRefusal

/-- What makes pauses of so many seconds, or says why it does not. -/
abbrev Clock := Float → Option PauseRefusal

/-- The clock of a system that has just started. It counts nanoseconds in 64 bits. -/
def Clock.system : Clock := fun seconds =>
  let nanoseconds := seconds * 1000000000
  if seconds.isNaN then some .notANumber
  else if nanoseconds < -9223372036854775808 || 9223372036854775808 ≤ nanoseconds then
    some .outOfRange
  else if seconds < 0 then some .negative
  else none

/-- What is done on the network. -/
inductive NetworkEvent where
  | opened (timeout : Float)
  | requested (method url : String) (headers : List (Document × Document))
  | slept (seconds : Float)
deriving Repr, Inhabited

/-- The outcomes to come, the events so far, and the clock that pauses are made with. -/
structure Network where
  outcomes : List RequestOutcome := []
  log : Array NetworkEvent := .empty
  clock : Clock := Clock.system
deriving Inhabited

namespace Network

/-- Adds an event. -/
def record (n : Network) (event : NetworkEvent) : Network :=
  { n with log := n.log.push event }

/-- One request: its outcome, and the network after it. -/
def request (n : Network) (method url : String) (headers : List (Document × Document)) :
    RequestOutcome × Network :=
  let after := n.record (.requested method url headers)
  match n.outcomes with
  | [] => (.failure .connect "no reply", after)
  | outcome :: rest => (outcome, { after with outcomes := rest })

end Network

end TextShell
