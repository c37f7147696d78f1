import TextShell.Value.Number

/-!
# Values that remember their numbers

A cell holds a value together with the numbers that were read from its text. A number is read when it
is first asked for and kept until the text changes; a reading that fails keeps nothing. Every change
of the text goes through `setText`, which empties both memories.
-/

namespace TextShell

/-- A value with the numbers read from it so far. The inner option is the answer "no number". -/
structure Cell where
  value : Value
  real : Option (Option Float) := none
  integer : Option (Option Int) := none

namespace Cell

/-- A cell in which nothing has been read. -/
def new (value : Value) : Cell := { value := value }

/-- Changes the text and forgets the numbers. -/
def setText (c : Cell) (text : String) : Cell := { value := { c.value with text := text } }

/-- Changes the status, which no number depends on. -/
def setStatus (c : Cell) (status : Int) : Cell :=
  { c with value := { c.value with status := status } }

/-- Appends a value: its text and its status. -/
def append (c : Cell) (other : Value) : Cell :=
  (c.setText (c.value.append other).text).setStatus other.status

/-- Appends text under the same status. -/
def appendText (c : Cell) (text : String) : Cell := c.setText (c.value.appendText text).text

/-- A cell of its own with the same value; numbers are not shared. -/
def copy (c : Cell) : Cell := new c.value

/-- The real in the text, and the cell after it was asked for. -/
def asReal (c : Cell) : Except Fault (Option Float) × Cell :=
  match c.real with
  | some x => (.ok x, c)
  | none =>
    match c.value.asReal with
    | .ok x => (.ok x, { c with real := some x })
    | .error fault => (.error fault, c)

/-- The integer in the text, and the cell after it was asked for. -/
def asInteger (c : Cell) : Except Fault (Option Int) × Cell :=
  match c.integer with
  | some n => (.ok n, c)
  | none =>
    match c.value.asInteger with
    | .ok n => (.ok n, { c with integer := some n })
    | .error fault => (.error fault, c)

end Cell

end TextShell
