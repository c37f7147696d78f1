import TextShell.Text.Case
import TextShell.Document.Convert
import TextShell.Network.Basic

/-!
# Requests that are repeated

A request is made until a response reports success, at most `retries + 1` times, with a pause before
each repetition that doubles from one to the next. A failure that repeating cannot mend ends it at
once, and so does a pause that cannot be made; otherwise the last failure is the one that is reported.
With a negative number of retries nothing is requested and there is no answer.
-/

namespace TextShell

/-- How requests are made. -/
structure RequestConfig where
  timeout : Float
  retries : Int
  backoff : Float
  headers : List (Document × Document) := []

/-- Settings from outside, by name. -/
abbrev Environment := List (String × String)

namespace RequestConfig

/-- A real from the environment; a text that is no number counts as not set. -/
def realSetting (env : Environment) (name : String) (fallback : Float) : Float :=
  ((env.lookup name).bind Decimal.readReal?).getD fallback

/-- An integer from the environment; a text that is no integer counts as not set. -/
def integerSetting (env : Environment) (name : String) (fallback : Int) : Int :=
  match (env.lookup name).map Decimal.readInteger with
  | some (.integer n) => n
  | _ => fallback

/-- The settings of the environment. -/
def ofEnvironment (env : Environment) : RequestConfig where
  timeout := realSetting env "DOG_HTTP_TIMEOUT" 5.0
  retries := integerSetting env "DOG_HTTP_RETRIES" 2
  backoff := 0.2

/-- The items that a document can be gone through by: the keys of a mapping, the characters of a
text. -/
def itemsOf? : Document → Option (List Document)
  | .list items | .tuple items | .set items => some items
  | .mapping entries => some (entries.map Prod.fst)
  | .text s => some (s.toList.map fun c => .text (String.ofList [c]))
  | .bytes octets => some (octets.map fun (n : Nat) => .integer n)
  | _ => none

/-- The entry that the item of this number makes: it has to be a pair. -/
def entryOf (number : Nat) (item : Document) : Except Fault (Document × Document) :=
  match itemsOf? item with
  | none =>
    .error (.reported "TypeError" ("cannot convert dictionary update sequence element #" ++
      toString number ++ " to a sequence"))
  | some [key, held] =>
    match key.keyFault? with
    | some fault => .error fault
    | none => .ok (key, held)
  | some parts =>
    .error (.reported "ValueError" ("dictionary update sequence element #" ++ toString number ++
      " has length " ++ toString parts.length ++ "; 2 is required"))

/-- The entries of a mapping, or those that the items of a document make, a later one in the place of an
earlier one of the same key. -/
def entriesOf (d : Document) : Except Fault (List (Document × Document)) := do
  match d, itemsOf? d with
  | .mapping entries, _ => return entries
  | _, some items =>
    let entries ← items.zipIdx.mapM fun numbered => entryOf numbered.2 numbered.1
    return entries.foldl (fun acc entry => Document.insert acc entry.1 entry.2) []
  | _, none => .error (.reported "TypeError" ("'" ++ d.kind ++ "' object is not iterable"))

/-- The order of names: texts by their characters, numbers by their value. -/
def nameLe : Document → Document → Bool
  | .text a, .text b => a ≤ b
  | .integer m, .integer n => m ≤ n
  | _, _ => true

/-- The settings with those of a mapping in their place; nothing and whatever is empty change nothing. -/
def override (config : RequestConfig) (settings : Document) : Except Fault RequestConfig := do
  match settings with
  | .mapping _ => pure ()
  | other =>
    if other.isTruthy then
      .error (.reported "TypeError" ("'" ++ other.kind ++ "' object is not a mapping"))
  let timeout ← ((settings.field? "timeout").getD (.real config.timeout)).toReal
  let retries ← ((settings.field? "retries").getD (.integer config.retries)).toInteger
  let backoff ← ((settings.field? "backoff").getD (.real config.backoff)).toReal
  let headers ← match settings.field? "headers" with
    | some headers => pure ((← entriesOf headers).mergeSort fun a b => nameLe a.1 b.1)
    | none => pure config.headers
  return ⟨timeout, retries, backoff, headers⟩

end RequestConfig

/-- How a sequence of requests ends. -/
inductive RequestResult where
  | body (text : String)
  /-- Nothing was requested. -/
  | nothing
  | failed (fault : Fault) (caught : Bool)
deriving Repr, DecidableEq, Inhabited

/-- A status that reports success. -/
def isSuccessStatus (status : Int) : Bool := 200 ≤ status && status < 300

/-- The failure of a response without success. The text is quoted up to two hundred characters. -/
def responseFailure (url : String) (status : Int) (text : String) : Fault :=
  .reported "RuntimeError" ("HTTP " ++ toString status ++ " for " ++ url ++ ": " ++
    String.ofList (text.toList.take 200))

/-- What an outcome means for the sequence: success with a text, or a failure together with whether a
script is shown it as a value and whether the request is worth repeating. -/
inductive Verdict where
  | success (text : String)
  | failure (fault : Fault) (caught retryable : Bool)
deriving Repr, DecidableEq, Inhabited

/-- The verdict on an outcome. -/
def RequestOutcome.verdict (url : String) : RequestOutcome → Verdict
  | .response status text =>
    if isSuccessStatus status then .success text
    else .failure (responseFailure url status text) true true
  | .failure kind text => .failure (.reported kind.kind text) kind.isCaught kind.isRetryable

/-- The pause behind the request of this number: `backoff · 2 ^ number`, if that power is a real. -/
def RequestConfig.pause? (config : RequestConfig) (number : Nat) : Option Float :=
  (Decimal.ofInteger? (Decimal.pow2 number)).map (config.backoff * ·)

namespace Network

/-- Makes the request of this number, counted from zero, and at most `left` more. -/
def attempt (config : RequestConfig) (method url : String) (number left : Nat) (n : Network) :
    RequestResult × Network :=
  let (outcome, after) := n.request method url config.headers
  match outcome.verdict url with
  | .success text => (.body text, after)
  | .failure fault caught retryable =>
    match left with
    | 0 => (.failed fault caught, after)
    | left + 1 =>
      if retryable then
        match config.pause? number with
        | none => (.failed .integerToReal false, after)
        | some seconds =>
          match after.clock seconds with
          | some refusal => (.failed refusal.fault refusal.isCaught, after)
          | none => attempt config method url (number + 1) left (after.record (.slept seconds))
      else (.failed fault caught, after)

/-- Makes a request under these settings. -/
def fetch (n : Network) (config : RequestConfig) (method url : String) : RequestResult × Network :=
  let opened := n.record (.opened config.timeout)
  if config.retries < 0 then (.nothing, opened)
  else opened.attempt config (Text.upper method) url 0 config.retries.toNat

end Network

end TextShell
