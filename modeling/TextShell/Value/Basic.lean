import TextShell.Text.Split

/-!
# Values

The one kind of value that scripts compute with: a text and a status. Status zero is success, and a
value with it is truthy. Joining values concatenates their texts and takes the status of the last.
-/

namespace TextShell

/-- A text with a status. -/
structure Value where
  text : String := ""
  status : Int := 0
deriving Repr, DecidableEq, Inhabited

namespace Value

/-- A successful value. -/
def truthy (text : String := "") : Value := ⟨text, 0⟩

/-- A failed value. -/
def falsy (text : String := "") : Value := ⟨text, 1⟩

/-- The answer to a test: no text, and success if the test holds. -/
def ofTest (holds : Bool) : Value := ⟨"", if holds then 0 else 1⟩

/-- The value reports success. -/
def isTruthy (v : Value) : Bool := v.status == 0

/-- The text of `other` behind that of `v`, with the status of `other`. -/
def append (v other : Value) : Value := ⟨v.text ++ other.text, other.status⟩

/-- More text, under the same status. -/
def appendText (v : Value) (text : String) : Value := ⟨v.text ++ text, v.status⟩

/-- The texts with `separator` between them, under the status of the last value. -/
def join (values : List Value) (separator : String := " ") : Value :=
  ⟨separator.intercalate (values.map Value.text), (values.getLast?.map Value.status).getD 0⟩

/-- The pieces of the text. Without a separator they are its words; an empty separator gives its
characters; any other cuts at its occurrences. -/
def split (v : Value) (separator : Option String := none) : List String :=
  match separator with
  | none => (Text.words v.text.toList).map String.ofList
  | some sep =>
    if sep.isEmpty then v.text.toList.map fun c => String.ofList [c]
    else (Text.splitAt sep.toList v.text.toList).map String.ofList

end Value

end TextShell
