import TextShell.Decimal.Reader
import TextShell.Decimal.RealText
import TextShell.Document.Basic
import TextShell.Text.Quoted

/-!
# Writing JSON

A document on one line, or with every item on a line of its own, indented by two for each level; an
empty list or mapping stays together. Only quotes, backslashes and control characters are escaped. Keys
that are not texts are written as the text of their value. A document may have no form in JSON:
`fault?` says why, and `writeAt` lays out those that have one.
-/

namespace TextShell.Json

/-- Reals in JSON. -/
def realFormat : Decimal.RealFormat := { notANumber := "NaN", infinity := "Infinity" }

/-- A character between double quotes. -/
def escapeChar (c : Char) : List Char :=
  if c = '"' || c = '\\' then ['\\', c]
  else if c = '\n' then ['\\', 'n']
  else if c = '\r' then ['\\', 'r']
  else if c = '\t' then ['\\', 't']
  else if c = '\x0c' then ['\\', 'f']
  else if c = '\x08' then ['\\', 'b']
  else if c.toNat < 0x20 then '\\' :: 'u' :: Text.hex 4 c.toNat
  else [c]

/-- A text in double quotes. -/
def quoted (s : String) : String :=
  "\"" ++ String.ofList (s.toList.flatMap escapeChar) ++ "\""

/-- The text of a key. -/
def keyText : Document → String
  | .text s => s
  | .bool b => if b then "true" else "false"
  | .integer n => toString n
  | .real x => realFormat.write x
  | _ => "null"

/-- How items are laid out at a level: what stands behind the opening bracket, between items, and
before the closing one. -/
structure Layout where
  first : String
  between : String
  last : String

/-- The layout at a level: on one line, or a line for each item. -/
def Layout.at (pretty : Bool) (level : Nat) : Layout :=
  if pretty then
    let inner := "\n" ++ String.ofList (List.replicate (2 * (level + 1)) ' ')
    ⟨inner, "," ++ inner, "\n" ++ String.ofList (List.replicate (2 * level) ' ')⟩
  else ⟨"", ", ", ""⟩

/-- Items between brackets. -/
def Layout.enclose (layout : Layout) (opening closing : String) (items : List String) : String :=
  if items.isEmpty then opening ++ closing
  else opening ++ layout.first ++ layout.between.intercalate items ++ layout.last ++ closing

mutual

/-- A document at a level. -/
def writeAt (pretty : Bool) (level : Nat) : Document → String
  | .null => "null"
  | .bool b => if b then "true" else "false"
  | .integer n => toString n
  | .real x => realFormat.write x
  | .text s => quoted s
  | .list items | .tuple items => (Layout.at pretty level).enclose "[" "]" (writeItems pretty (level + 1) items)
  | .mapping entries =>
    (Layout.at pretty level).enclose "\x7b" "\x7d" (writeEntries pretty (level + 1) entries)
  | .value v =>
    (Layout.at pretty level).enclose "\x7b" "\x7d"
      ["\"text\": " ++ quoted v.text, "\"status\": " ++ toString v.status]
  | _ => "null"

/-- The items of a list. -/
def writeItems (pretty : Bool) (level : Nat) : List Document → List String
  | [] => []
  | item :: rest => writeAt pretty level item :: writeItems pretty level rest

/-- The members of a mapping. -/
def writeEntries (pretty : Bool) (level : Nat) : List (Document × Document) → List String
  | [] => []
  | (key, held) :: rest =>
    (quoted (keyText key) ++ ": " ++ writeAt pretty level held) :: writeEntries pretty level rest

end

/-- Why an integer cannot be written, if it cannot. -/
def integerFault? (n : Int) : Option Fault :=
  if (Decimal.integerText? n).isNone then some .integerTooWide else none

/-- Why a document cannot be a key, if it cannot. -/
def keyFault? : Document → Option Fault
  | .integer n => integerFault? n
  | .null | .bool _ | .real _ | .text _ => none
  | other => some (.reported "TypeError"
    ("keys must be str, int, float, bool or None, not " ++ other.className))

mutual

/-- Why a document cannot be written, if it cannot: the first of its parts that has no form. -/
def fault? : Document → Option Fault
  | .integer n => integerFault? n
  | .value v => integerFault? v.status
  | .null | .bool _ | .real _ | .text _ => none
  | .list items | .tuple items => itemFault? items
  | .mapping entries => entryFault? entries
  | other => some (.reported "TypeError"
    ("Object of type " ++ other.className ++ " is not JSON serializable"))

/-- Why some item cannot be written. -/
def itemFault? : List Document → Option Fault
  | [] => none
  | item :: rest => (fault? item).or (itemFault? rest)

/-- Why some entry cannot be written. -/
def entryFault? : List (Document × Document) → Option Fault
  | [] => none
  | (key, held) :: rest => (keyFault? key).or ((fault? held).or (entryFault? rest))

end

/-- Writes a document. -/
def write (pretty : Bool) (d : Document) : Except Fault String :=
  match fault? d with
  | some fault => .error fault
  | none => .ok (writeAt pretty 0 d)

end TextShell.Json
