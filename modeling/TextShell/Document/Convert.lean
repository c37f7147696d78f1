import TextShell.Decimal.Reader
import TextShell.Decimal.RealText
import TextShell.Document.Basic

/-!
# Documents as text and numbers

A document in a place where a text, an integer or a real is wanted. As a text it is shown the way
messages show it; numbers are read leniently from texts, and a real loses its fraction to become an
integer.
-/

namespace TextShell.Document

/-- Items between brackets; a tuple of one item has a comma behind it. -/
def showTuple (items : List String) : String :=
  match items with
  | [item] => "(" ++ item ++ ",)"
  | _ => "(" ++ ", ".intercalate items ++ ")"

mutual

/-- A document inside another, where texts are quoted. -/
def shown : Document → String
  | .null => "None"
  | .bool b => if b then "True" else "False"
  | .integer n => toString n
  | .real x => Decimal.plainReal.write x
  | .text s => Text.quote s
  | .bytes octets => Text.quoteBytes octets
  | .day d => d.shown
  | .moment m => m.shown
  | .list items => "[" ++ ", ".intercalate (shownItems items) ++ "]"
  | .tuple items => showTuple (shownItems items)
  | .set items =>
    if items.isEmpty then "set()" else "\x7b" ++ ", ".intercalate (shownItems items) ++ "\x7d"
  | .mapping entries => "\x7b" ++ ", ".intercalate (shownEntries entries) ++ "\x7d"
  | .value v => "Value(" ++ Text.quote v.text ++ ", " ++ toString v.status ++ ")"
  | .enclosing isMapping => if isMapping then "\x7b...\x7d" else "[...]"

/-- Items inside a list. -/
def shownItems : List Document → List String
  | [] => []
  | item :: rest => item.shown :: shownItems rest

/-- Entries inside a mapping. -/
def shownEntries : List (Document × Document) → List String
  | [] => []
  | (key, held) :: rest => (key.shown ++ ": " ++ held.shown) :: shownEntries rest

end

mutual

/-- Some integer in the document has more digits than are written. -/
def hasWideInteger : Document → Bool
  | .integer n => (Decimal.integerText? n).isNone
  | .list items | .tuple items | .set items => anyWideInteger items
  | .mapping entries => entriesWideInteger entries
  | _ => false

/-- Some item has such an integer. -/
def anyWideInteger : List Document → Bool
  | [] => false
  | item :: rest => item.hasWideInteger || anyWideInteger rest

/-- Some entry has such an integer. -/
def entriesWideInteger : List (Document × Document) → Bool
  | [] => false
  | (key, held) :: rest => key.hasWideInteger || held.hasWideInteger || entriesWideInteger rest

end

/-- A document as text: a text is itself, and so are days and moments in their plain form. -/
def toText (d : Document) : Except Fault String :=
  if d.hasWideInteger then .error .integerTooWide
  else .ok (match d with
    | .text s => s
    | .day d => d.text
    | .moment m => m.text
    | other => other.shown)

/-- The integer that a numeral writes. `shown` is the numeral as a message gives it. -/
def integerIn (numeral shown : String) : Except Fault Int :=
  match Decimal.readInteger numeral with
  | .integer n => .ok n
  | .tooLong digits => .error (.numeralTooLong digits)
  | .malformed => .error (.notInteger shown)

/-- A document as an integer. -/
def toInteger : Document → Except Fault Int
  | .bool b => .ok (if b then 1 else 0)
  | .integer n => .ok n
  | .real x =>
    match Decimal.decode x with
    | .notANumber => .error .notANumberToInteger
    | .infinite _ => .error .infinityToInteger
    | .finite .. => .ok ((Decimal.truncate? x).getD 0)
  | .text s => integerIn s (Text.quote s)
  | .bytes octets =>
    -- Bytes beyond ASCII are part of no numeral.
    let numeral := octets.map fun n => if n < 128 then Char.ofNat n else '?'
    integerIn (String.ofList numeral) (Text.quoteBytes octets)
  | other => .error (.kindToInteger other.kind)

/-- A document as a real. -/
def toReal : Document → Except Fault Float
  | .bool b => .ok (if b then 1 else 0)
  | .integer n =>
    match Decimal.ofInteger? n with
    | some x => .ok x
    | none => .error .integerToReal
  | .real x => .ok x
  | .text s =>
    match Decimal.readReal? s with
    | some x => .ok x
    | none => .error (.notReal s)
  | other => .error (.kindToReal other.kind)

/-- The value that a mapping of a text and a status describes. What is missing is empty or zero. -/
def toValue (d : Document) : Except Fault Value := do
  let text ← ((d.field? "text").getD (.text "")).toText
  let status ← ((d.field? "status").getD (.integer 0)).toInteger
  return ⟨text, status⟩

end TextShell.Document
