import TextShell.Fault
import TextShell.Document.Basic
import TextShell.Template

/-!
# Literals in data

The template of what stands for a literal in a tree that was handed over as data. A text is read as
in a source. A list is read as if its items were characters, of which the regions then count the items;
one that is no text, where a character is looked at, is a fault, and so is anything else in the place of
a literal.
-/

namespace TextShell.Literal

/-- The fault of asking something for what it does not have. -/
def lacks (d : Document) (name : String) : Fault :=
  .reported "AttributeError" ("'" ++ d.kind ++ "' object has no attribute '" ++ name ++ "'")

/-- The item is this text. -/
def isText (d : Document) (s : String) : Bool := d.sameKey (.text s)

/-- The item counts as part of an identifier. -/
def isIdentifierPart : Document → Except Fault Bool
  | .text s => .ok (s == "%" || s == "_" || (!s.isEmpty && s.toList.all Text.isWordChar))
  | other => .error (lacks other "isalnum")

/-- What an item behind a backslash stands for. -/
def unescapePart (d : Document) : Except Fault Document :=
  match d, d.keyFault? with
  | _, some fault => .error fault
  | .text s, none =>
    match s.toList with
    | [c] => .ok (.text (String.ofList [unescape c]))
    | _ => .ok d
  | _, none => .ok d

/-- A scan in progress. -/
structure Scan where
  /-- The items so far, read backwards. -/
  parts : List Document := []
  /-- The number of them. -/
  size : Nat := 0
  /-- The closed regions, last first. -/
  regions : List Region := []
  /-- The kind of the open region and where it starts. -/
  current : Option (RegionKind × Nat) := none

/-- Closes the open region, unless it is empty. -/
def Scan.close (s : Scan) : List Region :=
  match s.current with
  | some (kind, start) => if start < s.size then ⟨kind, start, s.size⟩ :: s.regions else s.regions
  | none => s.regions

/-- Opens a variable behind the items. -/
def Scan.openVariable (s : Scan) : Scan :=
  { s with regions := s.close, current := some (.variable, s.size) }

/-- Adds an item. It continues the open region, unless it ends a variable. -/
def Scan.push (s : Scan) (d : Document) : Except Fault Scan := do
  let longer := { s with parts := d :: s.parts, size := s.size + 1 }
  match s.current with
  | none => return { longer with current := some (.literal, s.size) }
  | some (.literal, _) => return longer
  | some (.variable, start) =>
    if ← isIdentifierPart d then return longer
    return { longer with
      regions := ⟨.variable, start, s.size⟩ :: s.regions
      current := some (.literal, s.size) }

/-- Scans the items of a literal. A backslash at its end is dropped. -/
def scan (expand : Bool) (s : Scan) : List Document → Except Fault Scan
  | [] => .ok s
  | [d] => if isText d "\\" then .ok s else s.push d
  | d :: next :: rest => do
    if isText d "\\" then scan expand (← s.push (← unescapePart next)) rest
    else
      let opens ← if expand && isText d "$" then isIdentifierPart next else pure false
      if opens then scan expand s.openVariable (next :: rest)
      else scan expand (← s.push d) (next :: rest)

/-- The text of items, which all have to be texts. -/
def joined (parts : List Document) : Except Fault String := do
  let texts ← parts.zipIdx.mapM fun numbered =>
    match numbered.1 with
    | .text s => .ok s
    | other => .error (.reported "TypeError" ("sequence item " ++ toString numbered.2 ++
        ": expected str instance, " ++ other.kind ++ " found"))
  return String.join texts

/-- Takes one pair of quotes off the items. -/
def stripQuotes (items : List Document) : List Document :=
  match items with
  | d :: rest => if isText d "'" || isText d "\"" then rest.dropLast else items
  | [] => []

/-- The template of a literal in data. -/
def template (expand : Bool) (d : Document) : Except Fault Template := do
  match d with
  | .text s => return Template.parse s expand
  | .list items =>
    let s ← scan expand {} (stripQuotes items)
    return ⟨← joined s.parts.reverse, s.close.reverse⟩
  | .mapping [] => return {}
  | .mapping _ => .error (.reported "KeyError" "0")
  | other =>
    if other.isTruthy then
      .error (.reported "TypeError" ("'" ++ other.kind ++ "' object is not subscriptable"))
    else .error (.reported "TypeError" ("object of type '" ++ other.kind ++ "' has no len()"))

end TextShell.Literal
