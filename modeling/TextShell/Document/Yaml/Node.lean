import TextShell.Document.Yaml.Scalar
import TextShell.Document.Yaml.Token

/-!
# Nodes of YAML

The nodes that the tokens of one document form, with every tag made out. A node is known by its number,
and one that is referred to by an alias has several places; it may even stand inside itself. An anchor
is given once, and an alias follows its anchor.
-/

namespace TextShell.Yaml

/-- What a node is made of; parts are given by number. -/
inductive Shape where
  | scalar (text : String)
  | sequence (items : List Nat)
  | mapping (entries : List (Nat × Nat))
deriving Repr, Inhabited

/-- A node. -/
structure Node where
  tag : Tag
  shape : Shape
deriving Repr, Inhabited

/-- What is known while nodes are put together. -/
structure NodeState where
  /-- The nodes so far, each in the place of its number. -/
  nodes : Array Node := .empty
  /-- What the handles of tags stand for. -/
  handles : List (String × String) := [("!", "!"), ("!!", tagStart)]
  /-- The nodes of the anchors so far. -/
  anchors : List (String × Nat) := []

/-- Puts nodes together. -/
abbrev NodeBuilder := StateT NodeState Scanner

namespace NodeBuilder

/-- The tokens form no document. -/
def malformed {α : Type} : NodeBuilder α := throw .malformed

/-- The next token, which stays. -/
def peek : NodeBuilder Token := Scanner.nextToken

/-- Takes a token. -/
def advance : NodeBuilder Unit := Scanner.take

/-- Takes the next token if it is this one. -/
def eat (token : Token) : NodeBuilder Bool := do
  if (← peek) == token then
    advance
    return true
  else return false

/-- Takes this token, which has to come next. -/
def expect (token : Token) : NodeBuilder Unit := do
  if !(← eat token) then malformed

/-- A new node. -/
def create (tag : Tag) (shape : Shape) : NodeBuilder Nat := do
  let s ← get
  set { s with nodes := s.nodes.push ⟨tag, shape⟩ }
  return s.nodes.size

/-- A part that was left out. -/
def nothing : NodeBuilder Nat := create .null (.scalar "")

/-- Gives a node its parts. -/
def complete (number : Nat) (shape : Shape) : NodeBuilder Nat := do
  modify fun s => { s with nodes := s.nodes.modify number fun node => { node with shape := shape } }
  return number

/-- The anchor and the tag before a node, in either order. -/
def properties : Nat → Option String → Option (Option String × String) →
    NodeBuilder (Option String × Option (Option String × String))
  | 0, anchor, tag => return (anchor, tag)
  | fuel + 1, anchor, tag => do
    match ← peek with
    | .anchor name =>
      if anchor.isSome then return (anchor, tag)
      advance
      properties fuel (some name) tag
    | .tag handle suffix =>
      if tag.isSome then return (anchor, tag)
      advance
      properties fuel anchor (some (handle, suffix))
    | _ => return (anchor, tag)

/-- The name of a tag that was written with a handle; one that says nothing is none. -/
def tagName (tag : Option (Option String × String)) : NodeBuilder (Option String) := do
  match tag with
  | none => return none
  | some (none, suffix) => return some suffix
  | some (some handle, suffix) =>
    match (← get).handles.lookup handle with
    | some start => return some (start ++ suffix)
    | none => malformed

/-- The tag of a node that has parts, or nothing at all. -/
def collectionTag (fallback : Tag) (name : Option String) : Tag :=
  match name with
  | none | some "!" => fallback
  | some name => .ofName name

/-- The tag of a scalar: what was written, or what its form says if it is plain. -/
def scalarTag (name : Option String) (isPlain : Bool) (text : String) : Tag :=
  match name with
  | some "!" => .ofPlain text
  | some name => .ofName name
  | none => if isPlain then .ofPlain text else .text

/-- An anchor is not given twice. -/
def checkAnchor (anchor : Option String) : NodeBuilder Unit := do
  match anchor with
  | some name => if ((← get).anchors.lookup name).isSome then malformed
  | none => return ()

/-- A new node with the anchor. One that has parts is known before them. -/
def anchored (anchor : Option String) (tag : Tag) (shape : Shape) : NodeBuilder Nat := do
  let number ← create tag shape
  match anchor with
  | some name => modify fun s => { s with anchors := (name, number) :: s.anchors }
  | none => pure ()
  return number

/-- A new node that will have parts. -/
def collection (anchor : Option String) (fallback : Tag) (name : Option String) (shape : Shape) :
    NodeBuilder Nat := do
  checkAnchor anchor
  anchored anchor (collectionTag fallback name) shape

/-- Where a node may stand, which decides what it may be. -/
inductive Place where
  /-- Inside brackets. -/
  | flow
  | block
  /-- As a key or a value of a block, where the dashes of a list need not be indented. -/
  | entry
deriving Repr, DecidableEq, Inhabited

mutual

/-- A node. -/
def node (place : Place) : Nat → NodeBuilder Nat
  | 0 => malformed
  | fuel + 1 => do
    match ← peek with
    | .alias name =>
      advance
      match (← get).anchors.lookup name with
      | some number => return number
      | none => malformed
    | _ =>
      let (anchor, written) ← properties 2 none none
      let name ← tagName written
      let token ← peek
      match token with
      | .scalar text isPlain =>
        advance
        checkAnchor anchor
        anchored anchor (scalarTag name isPlain text) (.scalar text)
      | .flowSequenceStart =>
        let number ← collection anchor .sequence name (.sequence [])
        advance
        complete number (.sequence (← flowItems true fuel))
      | .flowMappingStart =>
        let number ← collection anchor .mapping name (.mapping [])
        advance
        complete number (.mapping (← flowEntries true fuel))
      | _ =>
        if place == .entry && token == .blockEntry then
          let number ← collection anchor .sequence name (.sequence [])
          complete number (.sequence (← looseItems fuel))
        else if place != .flow && token == .blockSequenceStart then
          let number ← collection anchor .sequence name (.sequence [])
          advance
          complete number (.sequence (← blockItems fuel))
        else if place != .flow && token == .blockMappingStart then
          let number ← collection anchor .mapping name (.mapping [])
          advance
          complete number (.mapping (← blockEntries fuel))
        else if anchor.isSome || name.isSome then
          checkAnchor anchor
          anchored anchor (collectionTag .null name) (.scalar "")
        else malformed

/-- A node, unless one of these tokens comes instead. -/
def nodeUnless (place : Place) (stops : List Token) : Nat → NodeBuilder Nat
  | 0 => malformed
  | fuel + 1 => do
    if stops.contains (← peek) then nothing else node place fuel

/-- The items of an indented list. -/
def blockItems : Nat → NodeBuilder (List Nat)
  | 0 => malformed
  | fuel + 1 => do
    if ← eat .blockEntry then
      let item ← nodeUnless .block [.blockEntry, .blockEnd] fuel
      return item :: (← blockItems fuel)
    else
      expect .blockEnd
      return []

/-- The items of a list that is not indented. -/
def looseItems : Nat → NodeBuilder (List Nat)
  | 0 => malformed
  | fuel + 1 => do
    if ← eat .blockEntry then
      let item ← nodeUnless .block [.blockEntry, .key, .value, .blockEnd] fuel
      return item :: (← looseItems fuel)
    else return []

/-- The entries of an indented mapping. -/
def blockEntries : Nat → NodeBuilder (List (Nat × Nat))
  | 0 => malformed
  | fuel + 1 => do
    let stops := [Token.key, .value, .blockEnd]
    if ← eat .key then
      let key ← nodeUnless .entry stops fuel
      let held ← if ← eat .value then nodeUnless .entry stops fuel else nothing
      return (key, held) :: (← blockEntries fuel)
    else
      expect .blockEnd
      return []

/-- The items of a list in brackets. One of them may be a single entry of a mapping. -/
def flowItems (isFirst : Bool) : Nat → NodeBuilder (List Nat)
  | 0 => malformed
  | fuel + 1 => do
    if ← eat .flowSequenceEnd then return []
    if !isFirst then expect .flowEntry
    if ← eat .key then
      let pair ← create .mapping (.mapping [])
      let key ← nodeUnless .flow [.value, .flowEntry, .flowSequenceEnd] fuel
      let held ←
        if ← eat .value then nodeUnless .flow [.flowEntry, .flowSequenceEnd] fuel
        else nothing
      let pair ← complete pair (.mapping [(key, held)])
      return pair :: (← flowItems false fuel)
    else if ← eat .flowSequenceEnd then return []
    else
      let item ← node .flow fuel
      return item :: (← flowItems false fuel)

/-- The entries of a mapping in braces. A node without a colon is a key that holds nothing. -/
def flowEntries (isFirst : Bool) : Nat → NodeBuilder (List (Nat × Nat))
  | 0 => malformed
  | fuel + 1 => do
    if ← eat .flowMappingEnd then return []
    if !isFirst then expect .flowEntry
    if ← eat .key then
      let key ← nodeUnless .flow [.value, .flowEntry, .flowMappingEnd] fuel
      let held ←
        if ← eat .value then nodeUnless .flow [.flowEntry, .flowMappingEnd] fuel
        else nothing
      return (key, held) :: (← flowEntries false fuel)
    else if ← eat .flowMappingEnd then return []
    else
      let key ← node .flow fuel
      let held ← nothing
      return (key, held) :: (← flowEntries false fuel)

end

/-- The directives before a document. The version is given once and is one that is known; a handle is
given once. -/
def directives (version : Bool) (own : List String) : Nat → NodeBuilder Unit
  | 0 => malformed
  | fuel + 1 => do
    match ← peek with
    | .directive name arguments =>
      advance
      match name, arguments with
      | "YAML", major :: _ =>
        if version || (major.toList.dropWhile (· == '0')) != ['1'] then malformed
        directives true own fuel
      | "TAG", [handle, start] =>
        if own.contains handle then malformed
        modify fun s => { s with handles := (handle, start) :: s.handles }
        directives version (handle :: own) fuel
      | _, _ => directives version own fuel
    | _ => return ()

/-- Takes marks that end a document. -/
def documentEnds : Nat → NodeBuilder Unit
  | 0 => return ()
  | fuel + 1 => do
    if ← eat .documentEnd then documentEnds fuel

/-- Nothing comes next that belongs to a document. -/
def atBoundary (token : Token) : Bool :=
  match token with
  | .directive .. | .documentStart | .documentEnd | .streamEnd => true
  | _ => false

/-- The only document, if there is one. -/
def document : NodeBuilder (Option Nat) := do
  let fuel := 10 * ((← getThe ScanState).size + 4)
  let token ← peek
  let root ←
    if token == .streamEnd then return none
    else if !atBoundary token || token == .documentEnd then node .block fuel
    else do
      directives false [] fuel
      expect .documentStart
      if atBoundary (← peek) then nothing else node .block fuel
  documentEnds fuel
  if !(← eat .streamEnd) then
    directives false [] fuel
    malformed
  return some root

end NodeBuilder

/-- The nodes of the only document of a text, and the number of the one that holds all others; `none` if
there is none. -/
def nodesOf (text : String) : Except ReadError (Option (Array Node × Nat)) := do
  match ScanState.ofText? text with
  | none => .error .malformed
  | some start =>
    let ((root, built), _) ← (NodeBuilder.document.run {}).run start
    return root.map fun number => (built.nodes, number)

end TextShell.Yaml
