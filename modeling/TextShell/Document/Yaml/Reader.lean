import TextShell.Document.SetOrder
import TextShell.Document.Yaml.Node

/-!
# Reading YAML

A text of one document. What a node stands for is made before its parts are, and parts are made in turn:
first those of the outermost collection, then those of its parts, and so on. So a node may be part of
itself, and of several mistakes the one of the least depth counts.

A mapping takes in the entries of those that it merges before its own, so that its own count; of two
entries with the same key the later one counts, in the place of the first. Nothing with parts can be
a key. A text without a document is null.
-/

namespace TextShell.Yaml

/-- What a node has become: something without parts, or a collection, known by the node's number. -/
inductive Built where
  /-- `origin` tells it from others that look the same. -/
  | atom (d : Document) (origin : Nat)
  | collection (number : Nat)
deriving Inhabited

/-- The parts of a collection. -/
inductive Content where
  | list (items : List Built)
  | pairs (entries : List (Built × Built))
  | set (items : List Built)
  | mapping (entries : List (Built × Built))
deriving Inhabited

/-- What is known while a document is made. -/
structure Assembly where
  nodes : Array Node
  /-- What the nodes have become so far. -/
  built : Array (Option Built)
  /-- The parts of the collections so far. -/
  contents : Array Content
  /-- The collections, in the order in which their parts are made. -/
  pending : Array Nat := .empty

/-- Makes some of a document. -/
abbrev Assembler := StateT Assembly (Except ReadError)

namespace Assembler

/-- The nodes form no document. -/
def malformed {α : Type} : Assembler α := throw .malformed

/-- A node that is needed to make itself. -/
def endless {α : Type} : Assembler α :=
  throw (.failed (.reported "RecursionError" "maximum recursion depth exceeded"))

/-- The node of a number. -/
def nodeAt (number : Nat) : Assembler Node := return ((← get).nodes[number]?).getD default

/-- Changes a node. -/
def modifyNode (number : Nat) (f : Node → Node) : Assembler Unit :=
  modify fun s => { s with nodes := s.nodes.modify number f }

/-- The entries of a node that is a mapping. -/
def entriesOf (number : Nat) : Assembler (List (Nat × Nat)) := do
  match (← nodeAt number).shape with
  | .mapping entries => return entries
  | _ => malformed

/-- Changes the entries of a mapping. -/
def setEntries (number : Nat) (entries : List (Nat × Nat)) : Assembler Unit :=
  modifyNode number fun node => { node with shape := .mapping entries }

/-! ## Atoms -/

/-- What the first entry holds whose key is the sign `=`. -/
def valueEntry? : List (Nat × Nat) → Assembler (Option Nat)
  | [] => return none
  | (key, held) :: rest => do
    if (← nodeAt key).tag == .value then return some held else valueEntry? rest

/-- The text of a node: its own, or that of the value of a mapping. -/
def textOf : Nat → Nat → Assembler String
  | 0, _ => endless
  | fuel + 1, number => do
    match (← nodeAt number).shape with
    | .scalar text => return text
    | .mapping entries =>
      match ← valueEntry? entries with
      | some held => textOf fuel held
      | none => malformed
    | .sequence _ => malformed

/-- Makes something without parts. All that is written as no number is one and the same. -/
def atom (number : Nat) (node : Node) : Assembler Built := do
  let count := (← get).nodes.size
  let text ← textOf (count + 1) number
  match node.tag, node.shape with
  | .timestamp, .mapping _ =>
    throw (.failed (.reported "TypeError" "expected string or bytes-like object, got 'list'"))
  | .real, _ =>
    match ← orFault (realOf? text) with
    | some x => return .atom (.real x) number
    | none => return .atom (.real notANumber) count
  | tag, _ => return .atom (← scalarDocument tag text) number

/-- What a node stands for. The parts of a collection follow later. -/
def construct (number : Nat) : Assembler Built := do
  match ((← get).built[number]?).join with
  | some built => return built
  | none =>
    let node ← nodeAt number
    let built ← match node.tag with
      | .sequence | .mapping | .set | .orderedMap | .pairs => do
        modify fun s => { s with pending := s.pending.push number }
        pure (Built.collection number)
      | _ => atom number node
    modify fun s => { s with built := s.built.setIfInBounds number (some built) }
    return built

/-! ## Merging -/

mutual

/-- Takes the entries that a mapping merges into it, before its own. -/
def flatten : Nat → Nat → Assembler Unit
  | 0, _ => endless
  | fuel + 1, number => do
    let merged ← merges number fuel 0 []
    if !merged.isEmpty then setEntries number (merged ++ (← entriesOf number))

/-- The entries that a mapping merges from its entry `index` on, behind those before it. The entries
that ask for it are removed. The sign `=` is a text as a key. -/
def merges (number : Nat) : Nat → Nat → List (Nat × Nat) → Assembler (List (Nat × Nat))
  | 0, _, _ => endless
  | fuel + 1, index, merged => do
    let entries ← entriesOf number
    match entries[index]? with
    | none => return merged
    | some (key, held) =>
      match (← nodeAt key).tag with
      | .merge =>
        setEntries number (entries.eraseIdx index)
        let more ← mergedFrom fuel held
        merges number fuel index (merged ++ more)
      | .value =>
        modifyNode key fun node => { node with tag := .text }
        merges number fuel (index + 1) merged
      | _ => merges number fuel (index + 1) merged

/-- The entries of a mapping, or of a list of them, those of a later one first. -/
def mergedFrom : Nat → Nat → Assembler (List (Nat × Nat))
  | 0, _ => endless
  | fuel + 1, number => do
    match (← nodeAt number).shape with
    | .mapping _ =>
      flatten fuel number
      entriesOf number
    | .sequence items => mergedItems fuel items []
    | .scalar _ => malformed

/-- The entries of a list of mappings, before those of the mappings before them. -/
def mergedItems : Nat → List Nat → List (Nat × Nat) → Assembler (List (Nat × Nat))
  | 0, _, _ => endless
  | _ + 1, [], merged => return merged
  | fuel + 1, number :: rest, merged => do
    match (← nodeAt number).shape with
    | .mapping _ =>
      flatten fuel number
      let entries ← entriesOf number
      mergedItems fuel rest (entries ++ merged)
    | _ => malformed

end

/-- Some key of a mapping asks for more than an entry. -/
def hasSpecialKey : List (Nat × Nat) → Assembler Bool
  | [] => return false
  | (key, _) :: rest => do
    match (← nodeAt key).tag with
    | .merge | .value => return true
    | _ => hasSpecialKey rest

/-- The number of parts of all nodes. -/
def partCount (nodes : Array Node) : Nat :=
  nodes.foldl (fun n node =>
    match node.shape with
    | .scalar _ => n + 1
    | .sequence items => n + 1 + items.length
    | .mapping entries => n + 1 + entries.length) 1

/-- The entries of a mapping, with those that it merges. -/
def allEntries (number : Nat) : Assembler (List (Nat × Nat)) := do
  if ← hasSpecialKey (← entriesOf number) then
    let parts := partCount (← get).nodes
    flatten (100 * parts * parts) number
  entriesOf number

/-! ## Collections -/

/-- Two atoms name the same entry: they are one, or look the same. -/
def sameKey : Built → Built → Bool
  | .atom d m, .atom e n => m == n || d.sameKey e
  | .collection m, .collection n => m == n
  | _, _ => false

/-- Sets the entry of `key`: a key that is there keeps its place. -/
def insert (entries : List (Built × Built)) (key held : Built) : List (Built × Built) :=
  if entries.any fun entry => sameKey entry.1 key then
    entries.map fun entry => if sameKey entry.1 key then (entry.1, held) else entry
  else entries ++ [(key, held)]

/-- The entries of a mapping, behind those before it. -/
def mappingEntries (before : List (Built × Built)) :
    List (Nat × Nat) → Assembler (List (Built × Built))
  | [] => return before
  | (key, held) :: rest => do
    match ← construct key with
    | .collection _ => malformed
    | key => mappingEntries (insert before key (← construct held)) rest

/-- The only entry of each mapping. -/
def pairEntries : List Nat → Assembler (List (Built × Built))
  | [] => return []
  | number :: rest => do
    match ← entriesOf number with
    | [(key, held)] =>
      let key ← construct key
      let held ← construct held
      return (key, held) :: (← pairEntries rest)
    | _ => malformed

/-- The parts of a collection. -/
def contentOf (number : Nat) : Assembler Content := do
  let node ← nodeAt number
  match node.tag, node.shape with
  | .sequence, .sequence items => return .list (← items.mapM construct)
  | .orderedMap, .sequence items | .pairs, .sequence items => return .pairs (← pairEntries items)
  | .mapping, .mapping _ => return .mapping (← mappingEntries [] (← allEntries number))
  | .set, .mapping _ => return .set ((← mappingEntries [] (← allEntries number)).map Prod.fst)
  | _, _ => malformed

/-- Makes the parts of all collections from the one in turn `index` on. -/
def fill (index : Nat) : Nat → Assembler Unit
  | 0 => return ()
  | fuel + 1 => do
    match (← get).pending[index]? with
    | none => return ()
    | some number =>
      let content ← contentOf number
      modify fun s => { s with contents := s.contents.setIfInBounds number content }
      fill (index + 1) fuel

end Assembler

/-- The document of what was made, inside the collections of `path`. -/
def unfold (contents : Array Content) (path : List Nat) : Nat → Built → Document
  | _, .atom d _ => d
  | 0, .collection _ => .null
  | fuel + 1, .collection number =>
    let inner := unfold contents (number :: path) fuel
    match (contents[number]?).getD default with
    | .list items => if path.contains number then .enclosing false else .list (items.map inner)
    | .pairs entries =>
      if path.contains number then .enclosing false
      else .list (entries.map fun entry => .tuple [inner entry.1, inner entry.2])
    | .set items => .set (SetOrder.arrange (items.map inner))
    | .mapping entries =>
      if path.contains number then .enclosing true
      else .mapping (entries.map fun entry => (inner entry.1, inner entry.2))

/-- The whole document. What its entries hold is seen by itself, so that it may show the whole once
more. -/
def unfoldRoot (contents : Array Content) (root : Built) : Document :=
  let whole := unfold contents [] (contents.size + 1)
  match root with
  | .collection number =>
    match contents[number]? with
    | some (.mapping entries) => .mapping (entries.map fun entry => (whole entry.1, whole entry.2))
    | _ => whole root
  | .atom d _ => d

/-- Reads a text. -/
def read (text : String) : Except ReadError Document := do
  match ← nodesOf text with
  | none => return .null
  | some (nodes, root) =>
    let start : Assembly := {
      nodes := nodes
      built := Array.replicate nodes.size none
      contents := Array.replicate nodes.size default }
    let make : Assembler Built := do
      let built ← Assembler.construct root
      Assembler.fill 0 (nodes.size + 1)
      return built
    let (built, final) ← make.run start
    return unfoldRoot final.contents built

end TextShell.Yaml
