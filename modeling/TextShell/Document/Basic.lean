import TextShell.Calendar
import TextShell.Decimal.Binary64
import TextShell.Fault
import TextShell.Value.Basic

/-!
# Documents

Structured data: what the data formats read and write, and what a parse tree comes as. A mapping keeps
the order of its entries, and whatever holds no list, mapping or set can be a key. A document may also
hold a value of a script, which the formats write as a mapping of its text and its status.
-/

namespace TextShell

/-- Structured data. -/
inductive Document where
  | null
  | bool (b : Bool)
  | integer (n : Int)
  | real (x : Float)
  | text (s : String)
  | bytes (octets : List Nat)
  | day (d : Day)
  | moment (m : Moment)
  | list (items : List Document)
  /-- A list of fixed length. -/
  | tuple (items : List Document)
  /-- Items of which no two are the same. -/
  | set (items : List Document)
  | mapping (entries : List (Document × Document))
  | value (v : Value)
  /-- A list or a mapping that is met again inside itself. -/
  | enclosing (isMapping : Bool)
deriving Inhabited, Repr

namespace Document

/-- A mapping whose keys are texts. -/
def record (fields : List (String × Document)) : Document :=
  .mapping (fields.map fun field => (.text field.1, field.2))

/-- The text and the status of a value. -/
def ofValue (v : Value) : Document :=
  record [("text", .text v.text), ("status", .integer v.status)]

mutual

/-- The document with every value of a script written out as a mapping, and every tuple as a list. -/
def expandValues : Document → Document
  | .list items | .tuple items => .list (expandItems items)
  | .mapping entries => .mapping (expandEntries entries)
  | .value v => ofValue v
  | other => other

/-- The items, each with its values written out. -/
def expandItems : List Document → List Document
  | [] => []
  | item :: rest => item.expandValues :: expandItems rest

/-- The entries, each with the values in what it holds written out; keys are left. -/
def expandEntries : List (Document × Document) → List (Document × Document)
  | [] => []
  | (key, held) :: rest => (key, held.expandValues) :: expandEntries rest

end

/-- The number of a document that is an integer. -/
def integer? : Document → Option Int
  | .integer n => some n
  | _ => none

/-- The name of a document's kind, as messages give it. -/
def kind : Document → String
  | .null => "NoneType"
  | .bool _ => "bool"
  | .integer _ => "int"
  | .real _ => "float"
  | .text _ => "str"
  | .bytes _ => "bytes"
  | .day _ => "datetime.date"
  | .moment _ => "datetime.datetime"
  | .list _ | .enclosing false => "list"
  | .tuple _ => "tuple"
  | .set _ => "set"
  | .mapping _ | .enclosing true => "dict"
  | .value _ => "Value"

/-- The name of a document's kind without the name of what it belongs to. -/
def className (d : Document) : String :=
  match d with
  | .day _ => "date"
  | .moment _ => "datetime"
  | other => other.kind

/-- The document counts as true: it is not nothing, not zero and not empty. -/
def isTruthy : Document → Bool
  | .null => false
  | .bool b => b
  | .integer n => n != 0
  | .real x => x != 0
  | .text s => !s.isEmpty
  | .bytes octets => !octets.isEmpty
  | .list items | .tuple items | .set items => !items.isEmpty
  | .mapping entries => !entries.isEmpty
  | _ => true

/-! ## Keys -/

mutual

/-- Why the document cannot be a key, if it cannot. -/
def keyFault? : Document → Option Fault
  | .tuple items => itemFault? items
  | .list _ => some (.unhashable "list")
  | .set _ => some (.unhashable "set")
  | .mapping _ => some (.unhashable "dict")
  | .value _ => some (.unhashable "Value")
  | .enclosing isMapping => some (.unhashable (if isMapping then "dict" else "list"))
  | _ => none

/-- Why some item cannot be part of a key. -/
def itemFault? : List Document → Option Fault
  | [] => none
  | item :: rest => item.keyFault?.or (itemFault? rest)

end

/-- A key as a number, where it is one: truth values count as one and zero. -/
def numericKey? : Document → Option (Int ⊕ Float)
  | .bool b => some (.inl (if b then 1 else 0))
  | .integer n => some (.inl n)
  | .real x => some (.inr x)
  | _ => none

/-- Two numbers have the same value. An integer and a real are compared exactly. -/
def sameNumber (a b : Document) : Bool :=
  match a.numericKey?, b.numericKey? with
  | some (.inl m), some (.inl n) => m == n
  | some (.inr x), some (.inr y) => x == y
  | some (.inl n), some (.inr x) | some (.inr x), some (.inl n) => Decimal.integer? x == some n
  | _, _ => false

mutual

/-- Two keys name the same entry. Numbers agree by their value. -/
def sameKey : Document → Document → Bool
  | .null, .null => true
  | .text s, .text t => s == t
  | .bytes a, .bytes b => a == b
  | .day a, .day b => a == b
  | .moment a, .moment b => a.sameAs b
  | .tuple items, .tuple others => sameKeys items others
  | a, b => sameNumber a b

/-- The items of two keys agree one by one. -/
def sameKeys : List Document → List Document → Bool
  | [], [] => true
  | a :: items, b :: others => a.sameKey b && sameKeys items others
  | _, _ => false

end

/-- Sets the entry of `key`: a key that is there keeps its place and gets the new document. -/
def insert (entries : List (Document × Document)) (key held : Document) :
    List (Document × Document) :=
  if entries.any fun entry => entry.1.sameKey key then
    entries.map fun entry => if entry.1.sameKey key then (entry.1, held) else entry
  else entries ++ [(key, held)]

/-- The mapping of these entries, in which a later one overrides an earlier one of the same key. -/
def ofEntries (entries : List (Document × Document)) : Document :=
  .mapping (entries.foldl (fun acc entry => insert acc entry.1 entry.2) [])

/-- The mapping of these entries, unless one of their keys can be none. -/
def ofEntries? (entries : List (Document × Document)) : Except Fault Document :=
  match entries.findSome? fun entry => entry.1.keyFault? with
  | some fault => .error fault
  | none => .ok (ofEntries entries)

/-- What a mapping holds under a text key. -/
def field? (d : Document) (name : String) : Option Document :=
  match d with
  | .mapping entries => (entries.find? fun entry => entry.1.sameKey (.text name)).map Prod.snd
  | _ => none

end Document

end TextShell
