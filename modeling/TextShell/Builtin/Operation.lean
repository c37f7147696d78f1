import TextShell.Builtin.Basic
import TextShell.Builtin.Flatten
import TextShell.Document.Json.Reader
import TextShell.Pattern.Parser
import TextShell.Pattern.Search
import TextShell.Text.Lines
import TextShell.Value.Number
import TextShell.World

/-!
# Operations on values

What the built-in functions compute. An operation that needs a number and gets something else answers
with a failed value; a number that cannot be read at all is a fault. Lists are texts that are split
into pieces and put together again with the same separator.
-/

namespace TextShell

/-- The comparison holds. A number that is none equals nothing. -/
def Comparison.holds (op : Comparison) (x y : Float) : Bool :=
  match op with
  | .eq => x == y
  | .neq => x != y
  | .lt => x < y
  | .gt => y < x
  | .leq => x ≤ y
  | .geq => y ≤ x

/-- One step of a fold. Division by zero gives an infinity, or no number. -/
def Arithmetic.apply (op : Arithmetic) (x y : Float) : Float :=
  match op with
  | .add => x + y
  | .sub => x - y
  | .mul => x * y
  | .div => x / y
  | .max => if x < y then y else x
  | .min => if y < x then y else x

namespace Operation

/-- The answer of a function that may fault. -/
abbrev Answer := Except Fault Value

/-- The numbers of the arguments, from left to right, up to the first that is none. -/
def numbers : List Value → Except Fault (Option (List Float))
  | [] => .ok (some [])
  | v :: rest => do
    match ← v.asReal with
    | none => return none
    | some x => return (← numbers rest).map (x :: ·)

/-- The numbers of the arguments, folded from the left. -/
def fold (op : Arithmetic) (arguments : List Value) : Answer := do
  match ← numbers arguments with
  | some (x :: rest) => return .truthy (Decimal.scriptNumber (rest.foldl op.apply x))
  | _ => return .falsy

/-- The two values as numbers, compared. -/
def compareNumbers (op : Comparison) (a b : Value) : Answer := do
  let x ← a.asReal
  let y ← b.asReal
  match x, y with
  | some x, some y => return .ofTest (op.holds x y)
  | _, _ => return .falsy

/-- A rounding of the number; what is not finite stays. A zero loses its sign. -/
def rounded (round : Float → Float) (v : Value) : Answer := do
  match ← v.asReal with
  | some x => return .truthy (Decimal.scriptNumber (round x + 0.0))
  | none => return .falsy

/-- The status as text, under itself. A status that is too wide to be written is a fault. -/
def statusOf (v : Value) : Answer :=
  match Decimal.integerText? v.status with
  | some text => .ok ⟨text, v.status⟩
  | none => .error .integerTooWide

/-- The value under another status; one that is no integer counts as failure. -/
def withStatus (v status : Value) : Answer := do
  return ⟨v.text, (← status.asInteger).getD 1⟩

/-- The integers from `low` on, in steps of `step`, below `high`. -/
def progression (low high step : Int) : List Int :=
  (List.range ((high - low + step - 1) / step).toNat).map fun i => low + step * Int.ofNat i

/-- An arithmetic progression as a list with a separator. -/
def range (low high step : Value) (separator : String) : Answer := do
  let low ← low.asInteger
  let high ← high.asInteger
  let step ← step.asInteger
  match low, high, step with
  | some low, some high, some step =>
    if 0 < step then
      return .truthy (separator.intercalate ((progression low high step).map toString))
    else return .falsy
  | _, _, _ => return .falsy

/-- What stands between the pieces of a list that is put together again. -/
def joiner (separator : Option Value) : String := (separator.map Value.text).getD " "

/-- The pieces of a list. -/
def pieces (list : Value) (separator : Option Value) : List String :=
  list.split (separator.map Value.text)

/-- The number of pieces. -/
def len (list : Value) (separator : Option Value) : Value :=
  .truthy (toString (pieces list separator).length)

/-- A part of the pieces that has a given size, if there are as many. -/
def part (select : Nat → List String → List String) (list count : Value)
    (separator : Option Value) : Answer := do
  match ← count.asInteger with
  | some n =>
    let all := pieces list separator
    if 0 ≤ n && n ≤ all.length then
      return .truthy ((joiner separator).intercalate (select n.toNat all))
    else return .falsy
  | none => return .falsy

/-- The first pieces. -/
def first (list count : Value) (separator : Option Value) : Answer := part List.take list count separator

/-- The last pieces. -/
def last (list count : Value) (separator : Option Value) : Answer :=
  part (fun n all => all.drop (all.length - n)) list count separator

/-- The pieces of two lists as one list. -/
def append (left right : Value) (separator : Option Value) : Value :=
  .truthy ((joiner separator).intercalate (pieces left separator ++ pieces right separator))

/-- The text with one part replaced by another, under the same status. -/
def replace (target old new : Value) : Value :=
  ⟨String.ofList (Text.replaceAll old.text.toList new.text.toList target.text.toList), target.status⟩

/-- The lines in which a pattern occurs. -/
def search (target pattern : Value) : Answer :=
  match Pattern.parse pattern.text with
  | .error .malformed => .ok .falsy
  | .error (.failed fault) => .error fault
  | .ok p => do
    let matcher := p.compile
    let found ← (Text.lines target.text).filterM matcher.occursIn
    return .truthy (String.join (found.map (· ++ "\n")))

/-- All arguments as one value with its text changed. -/
def mapText (f : String → String) (arguments : List Value) : Value :=
  let all := Value.join arguments
  ⟨f all.text, all.status⟩

/-- Every character of every argument is of a class. -/
def allChars (holds : Char → Bool) (arguments : List Value) : Value :=
  .ofTest (arguments.all fun v => v.text.toList.all holds)

/-- A JSON text as lines. -/
def gron (source : Value) : Answer := do
  match Json.read? source.text with
  | some d => return .truthy (← d.gron)
  | none => return .falsy

/-- A number from `low` on and below `high`; without room it is `low`. -/
def draw (low high : Int) (w : World) : Value × World :=
  if high ≤ low then (.truthy (toString low), w)
  else
    let (n, after) := w.draw (high - low).toNat
    (.truthy (toString (low + n)), after)

/-- A random number. -/
def random (low high : Value) (w : World) : Answer × World :=
  match low.asInteger, high.asInteger with
  | .error fault, _ | _, .error fault => (.error fault, w)
  | .ok (some low), .ok (some high) =>
    let (v, after) := draw low high w
    (.ok v, after)
  | .ok _, .ok _ => (.ok .falsy, w)

/-- The text behind an address. A failure that a script is meant to see is the text of a failed
value. -/
def fetch (config : RequestConfig) (url : String) (w : World) : Answer × World :=
  let (result, network) := w.network.fetch config "GET" url
  let after := { w with network := network }
  match result with
  | .body text => (.ok (.truthy text), after)
  | .nothing => (.ok .truthy, after)
  | .failed fault true => (.ok (.falsy fault.message), after)
  | .failed fault false => (.error fault, after)

/-- The text behind an address, with a time limit, which has to be a positive number. -/
def get (url : String) (timeout : Option Value) (w : World) : Answer × World :=
  let config := RequestConfig.ofEnvironment w.environment
  match timeout with
  | none => fetch config url w
  | some limit =>
    match limit.asReal with
    | .error fault => (.error fault, w)
    | .ok none => (.ok .falsy, w)
    | .ok (some seconds) =>
      if seconds ≤ 0 then (.ok .falsy, w) else fetch { config with timeout := seconds } url w

end Operation

end TextShell
