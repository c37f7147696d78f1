import TextShell.Document.Basic
import TextShell.Program.Literal
import TextShell.Program.Node

/-!
# Parse trees

An element is what one rule of the grammar matched: the rule's tag, the text, where it starts, and the
elements inside it. `Element.ofDocument` finds the elements in a tree that was handed over as data,
looking through everything that only wraps them; `ProgramOf.ofElements` reads a program off elements.

The two steps are separate so that wrapping cannot matter to the second one. A tree of data may have
anything in the place of a tag, a text or a line: a tag that cannot be looked up ends the search there,
and what was found before it still counts where elements are taken one after the other.
-/

namespace TextShell

/-- The rules that leave an element. -/
inductive Tag where
  | function | dquoteString | squoteString | bareString
  | functionName | variableName | formalParam
  | block | forSplitStmt | forStmt | ifElseStmt | ifStmt | whileStmt
  | setStmt | returnStmt | clearStmt | call
deriving Repr, DecidableEq, Inhabited

namespace Tag

/-- All tags. -/
def all : List Tag :=
  [.function, .dquoteString, .squoteString, .bareString, .functionName, .variableName, .formalParam,
    .block, .forSplitStmt, .forStmt, .ifElseStmt, .ifStmt, .whileStmt, .setStmt, .returnStmt,
    .clearStmt, .call]

/-- The name of a tag in a tree. -/
def name : Tag → String
  | .function => "function"
  | .dquoteString => "dquote_string"
  | .squoteString => "squote_string"
  | .bareString => "bare_string"
  | .functionName => "function_name"
  | .variableName => "variable_name"
  | .formalParam => "formal_param"
  | .block => "block"
  | .forSplitStmt => "for_split_stmt"
  | .forStmt => "for_stmt"
  | .ifElseStmt => "if_else_stmt"
  | .ifStmt => "if_stmt"
  | .whileStmt => "while_stmt"
  | .setStmt => "set_stmt"
  | .returnStmt => "return_stmt"
  | .clearStmt => "clear_stmt"
  | .call => "call"

/-- The tag of this name. -/
def ofName? (s : String) : Option Tag :=
  all.find? fun tag => tag.name == s

end Tag

/-- What one rule matched. -/
inductive Element where
  | mk (tag : Tag) (text : Option Document) (line col : Document) (children : List Element)
      (fault : Option Fault)
deriving Repr, Inhabited

namespace Element

/-- The rule that matched. -/
def tag : Element → Tag
  | .mk tag .. => tag

/-- The matched text. -/
def text? : Element → Option Document
  | .mk _ text .. => text

/-- The line it starts on. -/
def line : Element → Document
  | .mk _ _ line .. => line

/-- The column it starts in. -/
def col : Element → Document
  | .mk _ _ _ col .. => col

/-- The elements inside it. -/
def children : Element → List Element
  | .mk _ _ _ _ children _ => children

/-- What ended the search for elements inside it, if something did. -/
def fault? : Element → Option Fault
  | .mk _ _ _ _ _ fault => fault

/-- The place of the element, if both its line and its column are known. -/
def loc? (e : Element) : Option Loc :=
  match e.line, e.col with
  | .null, _ | _, .null => none
  | line, col => some (.at line col e.tag.name (e.text?.getD .null))

end Element

/-! ## Elements in data -/

/-- Elements that were found, and what ended the search, if something did. -/
structure Finding where
  elements : List Element := []
  fault : Option Fault := none
deriving Repr, Inhabited

/-- One search after the other, unless the first was ended. -/
def Finding.append (a b : Finding) : Finding :=
  if a.fault.isSome then a else ⟨a.elements ++ b.elements, b.fault⟩

/-- How a mapping in a tree is to be read. -/
inductive TreeRole where
  /-- An element, with what stands in its own fields. -/
  | element (tag : Tag) (text : Option Document) (line col : Document)
  /-- A wrapper: the elements are in this field. -/
  | wrapper (name : String)
  /-- No tag and no children: the elements are in all of its fields. -/
  | anonymous
  /-- Nothing to be found here. -/
  | leaf
  /-- Its tag cannot be looked up. -/
  | broken (fault : Fault)
deriving Repr, Inhabited

/-- The tag of this name. -/
def Tag.ofDocument? : Document → Option Tag
  | .text s => ofName? s
  | _ => none

/-- The role of a mapping. An `ast` field counts only where there is no tag. -/
def Document.role (d : Document) : TreeRole :=
  if (d.field? "ast").isSome && (d.field? "tag").isNone then .wrapper "ast"
  else
    let name := (d.field? "tag").getD .null
    match name.keyFault?, Tag.ofDocument? name with
    | some fault, _ => .broken fault
    | none, some tag =>
      .element tag (d.field? "text") ((d.field? "line").getD .null) ((d.field? "col").getD .null)
    | none, none =>
      if (d.field? "children").isSome then .wrapper "children"
      else match name with
        | .null => .anonymous
        | _ => .leaf

namespace Element

mutual

/-- The elements of a tree, looking through lists and wrappers. -/
def ofDocument : Document → Finding
  | .list items => ofItems items
  | .mapping entries =>
    match Document.role (.mapping entries) with
    | .element tag text line col =>
      let inner := ofField "children" entries
      { elements := [.mk tag text line col inner.elements inner.fault] }
    | .wrapper name => ofField name entries
    | .anonymous => ofFields entries
    | .leaf => {}
    | .broken fault => { fault := some fault }
  | _ => {}

/-- The elements of all items. -/
def ofItems : List Document → Finding
  | [] => {}
  | item :: rest => (ofDocument item).append (ofItems rest)

/-- The elements in the first field of this name. -/
def ofField (name : String) : List (Document × Document) → Finding
  | [] => {}
  | (key, held) :: rest =>
    if key.sameKey (.text name) then ofDocument held else ofField name rest

/-- The elements in all fields. -/
def ofFields : List (Document × Document) → Finding
  | [] => {}
  | (_, held) :: rest => (ofDocument held).append (ofFields rest)

end

end Element

/-! ## Programs of elements -/

/-- Why a source or a tree is not a program. -/
inductive SourceError where
  /-- The source does not follow the grammar. -/
  | unparsable
  /-- An element does not hold what its rule asks for. -/
  | malformed (tag : Tag) (line col : Document)
  /-- The data of a tree is of no use where it stands. -/
  | fault (fault : Fault)
deriving Repr, Inhabited

namespace SourceError

/-- The words of an error. -/
def message : SourceError → String
  | .unparsable => "parse failed"
  | .malformed tag _ _ => "malformed `" ++ tag.name ++ "` node"
  | .fault f => f.message

/-- The line of an error, where it has one. -/
def line : SourceError → Document
  | .malformed _ line _ => line
  | _ => .null

/-- The column of an error, where it has one. -/
def col : SourceError → Document
  | .malformed _ _ col => col
  | _ => .null

end SourceError

/-- The document as a name that can be evaluated, which is a text. -/
def Document.name : Document → Except SourceError String
  | .text s => .ok s
  | other => .error (.fault (.reported "TypeError" ("a name is a text, not '" ++ other.kind ++ "'")))

namespace Element

/-- The text of an element, which it must have. -/
def text (e : Element) : Except SourceError Document :=
  match e.text? with
  | some d => .ok d
  | none => .error (.fault (.missingField "text"))

/-- The error about an element that does not hold what its rule asks for. -/
def malformed (e : Element) : SourceError := .malformed e.tag e.line e.col

/-- The template of an element that is a literal. -/
def template {ν : Type} (e : Element) (expand : Bool) : Except SourceError (Tree ν) := do
  match Literal.template expand (← e.text) with
  | .ok t => return .template t
  | .error fault => .error (.fault fault)

/-- The parameter of an element, whose text has to be one. -/
def param (e : Element) : Except SourceError Param := do
  match ← e.text with
  | .text s => return .ofText s
  | other => .error (.fault (Literal.lacks other "lstrip"))

section

variable {ν : Type} (named : Document → Except SourceError ν)

mutual

/-- The node of an element. `named` makes a name of a text. -/
def toNode : Element → Except SourceError (Tree ν)
  | .mk _ _ _ _ _ (some fault) => .error (.fault fault)
  | e@(.mk tag _ _ _ children none) =>
    match tag, children with
    | .dquoteString, _ | .bareString, _ => e.template true
    | .squoteString, _ => e.template false
    | .block, parts => do return .block (← toNodes parts) e.loc?
    | .forSplitStmt, [target, list, separator, body] => do
      let name ← named (← target.text)
      let list ← toNode list
      let body ← toNode body
      return .forEach name list body (← toNode separator) e.loc?
    | .forStmt, [target, list, body] => do
      let name ← named (← target.text)
      let list ← toNode list
      return .forEach name list (← toNode body) .absent e.loc?
    | .ifElseStmt, [condition, trueBody, falseBody] => do
      let condition ← toNode condition
      let trueBody ← toNode trueBody
      return .ifElse condition trueBody (← toNode falseBody) e.loc?
    | .ifStmt, [condition, body] => do
      let condition ← toNode condition
      return .ifThen condition (← toNode body) e.loc?
    | .whileStmt, [condition, body] => do
      let condition ← toNode condition
      return .whileLoop condition (← toNode body) e.loc?
    | .setStmt, [target, value] => do
      let name ← named (← target.text)
      return .assign name (← toNode value) e.loc?
    | .returnStmt, [] => .ok (.returnWith .absent e.loc?)
    | .returnStmt, value :: _ => do return .returnWith (← toNode value) e.loc?
    | .clearStmt, [] => .ok (.clearWith .absent e.loc?)
    | .clearStmt, value :: _ => do return .clearWith (← toNode value) e.loc?
    | .call, head :: arguments =>
      if head.tag = .functionName then do
        let arguments ← toNodes arguments
        return .call (← named (← head.text)) arguments e.loc?
      else .error e.malformed
    | _, _ => .error e.malformed

/-- The nodes of elements, up to the first that has none. -/
def toNodes : List Element → Except SourceError (List (Tree ν))
  | [] => .ok []
  | e :: rest => do
    let node ← toNode e
    return node :: (← toNodes rest)

end

/-- What has been found of a function's definition. -/
structure FunctionParts (ν : Type) where
  name : Document := .null
  params : List Param := []
  body : Option (Tree ν) := none

/-- Adds what one element inside a definition says. Of several names or bodies the last counts. -/
def FunctionParts.add (parts : FunctionParts ν) (e : Element) :
    Except SourceError (FunctionParts ν) :=
  match e.tag with
  | .functionName => do return { parts with name := ← e.text }
  | .formalParam => do return { parts with params := parts.params ++ [← e.param] }
  | .block => do return { parts with body := some (← toNode named e) }
  | _ => .ok parts

/-- The function of an element. It must have a name and a body. -/
def toFunction (e : Element) : Except SourceError (FunctionOf ν) := do
  let parts ← e.children.foldlM (FunctionParts.add named) {}
  if let some fault := e.fault? then .error (.fault fault)
  match parts.name, parts.body with
  | .null, _ | _, none => .error e.malformed
  | name, some body =>
    let source ← match e.text? with
      | none | some .null => pure none
      | some text => pure (some (← named text))
    return ⟨← named name, parts.params, body, source, e.loc?⟩

end

end Element

section

variable {ν : Type} (named : Document → Except SourceError ν)

/-- The program of elements: what each of them defines or executes, from the first on. -/
def ProgramOf.ofElements : List Element → Except SourceError (ProgramOf ν)
  | [] => .ok {}
  | e :: rest =>
    match e.tag with
    | .function => do
      let f ← e.toFunction named
      let p ← ofElements rest
      return { p with functions := f :: p.functions }
    | _ => do
      let node ← e.toNode named
      let p ← ofElements rest
      return { p with executions := node :: p.executions }

/-- The program of elements that were found in data. What ended the search counts only if nothing was
wrong before it. -/
def ProgramOf.ofFinding (found : Finding) : Except SourceError (ProgramOf ν) := do
  let program ← ofElements named found.elements
  match found.fault with
  | some fault => .error (.fault fault)
  | none => return program

end

/-- The program of a tree that was handed over as data, with whatever stands there for names. -/
def ProgramOf.ofDocument (tree : Document) : Except SourceError (ProgramOf Document) :=
  ofFinding .ok (Element.ofDocument tree)

end TextShell
