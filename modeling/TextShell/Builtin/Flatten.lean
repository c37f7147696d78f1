import TextShell.Document.Json.Writer

/-!
# Documents as lines

A document written as one line for each part: the path to the part, and what stands there. A list or a
mapping has a line of its own before those of its parts, and the members of a mapping come by name, so
the order in which a source gave them does not show. A part that cannot be written has no line, and
then there are none at all.
-/

namespace TextShell.Document

/-- The line of one part. -/
def pathLine (path text : String) : String := path ++ " = " ++ text ++ "\n"

mutual

/-- The lines of a document that stands at a path. -/
def flatten (path : String) : Document → List (Except Fault String)
  | .list items => .ok (pathLine path "[]") :: flattenItems path 0 items
  | .mapping entries =>
    .ok (pathLine path "\x7b\x7d") ::
      ((flattenEntries path entries).mergeSort fun a b => a.1 ≤ b.1).flatMap Prod.snd
  | other => [(Json.write false other).map (pathLine path)]

/-- The lines of the items of a list, from this index on. -/
def flattenItems (path : String) (index : Nat) : List Document → List (Except Fault String)
  | [] => []
  | item :: rest =>
    item.flatten (path ++ "[" ++ toString index ++ "]") ++ flattenItems path (index + 1) rest

/-- The members of a mapping, each with its name and its lines. -/
def flattenEntries (path : String) :
    List (Document × Document) → List (String × List (Except Fault String))
  | [] => []
  | (key, held) :: rest =>
    let name := Json.keyText key
    (name, held.flatten (path ++ "." ++ name)) :: flattenEntries path rest

end

/-- A whole document as lines, up to the first part that cannot be written. -/
def gron (d : Document) : Except Fault String := do
  return String.join (← (d.flatten "json").mapM id)

end TextShell.Document
