import TextShell.Document.Basic
import TextShell.Template

/-!
# Programs

The tree of a program. One type holds everything that can stand in a tree, because a tree may be built
by hand: a node in a slot where it has no meaning is an error that evaluation reports, not one that
cannot be written. What the grammar produces is narrower.

The names in a tree are texts, except while it is read off data that may have anything in their place;
so the tree is over its names, and `Node` is the tree that can be evaluated. A statement carries the
place it was read from, if it was read from a source. Templates carry none.
-/

namespace TextShell

/-- A place in a source, as it was noted: a mapping of its line and column, the rule that matched there,
and the text, unless a tree built by hand notes something else. -/
abbrev Loc := Document

/-- The place where a rule matched. -/
def Loc.at (line col : Document) (tag : String) (text : Document) : Loc :=
  .record [("line", line), ("col", col), ("tag", .text tag), ("text", text)]

/-- A parameter of a function. A variadic one takes all arguments that are left. -/
structure Param where
  name : String
  isVariadic : Bool := false
deriving Repr, DecidableEq, Inhabited

/-- A parameter from its written form, in which `%` marks the variadic one. -/
def Param.ofText (text : String) : Param :=
  ⟨String.ofList (text.toList.dropWhile (· == '%')), text.toList.head? == some '%'⟩

/-- The written form of a parameter. -/
def Param.print (p : Param) : String :=
  (if p.isVariadic then "%" else "") ++ p.name

/-- The tree of a program, over the type of its names. -/
inductive Tree (ν : Type) where
  /-- Nothing: a part that was left out. -/
  | absent
  | template (t : Template)
  | block (executions : List (Tree ν)) (loc : Option Loc)
  /-- `for target in list split separator body`; the separator may be `absent`. -/
  | forEach (target : ν) (list body separator : Tree ν) (loc : Option Loc)
  | ifThen (condition body : Tree ν) (loc : Option Loc)
  | ifElse (condition trueBody falseBody : Tree ν) (loc : Option Loc)
  | whileLoop (condition body : Tree ν) (loc : Option Loc)
  | assign (target : ν) (value : Tree ν) (loc : Option Loc)
  /-- `return value`; the value may be `absent`. -/
  | returnWith (value : Tree ν) (loc : Option Loc)
  /-- `clear value`; the value may be `absent`. -/
  | clearWith (value : Tree ν) (loc : Option Loc)
  | call (name : ν) (arguments : List (Tree ν)) (loc : Option Loc)
  | function (name : ν) (params : List Param) (body : Tree ν) (source : Option ν) (loc : Option Loc)
  | program (functions executions : List (Tree ν)) (loc : Option Loc)
  /-- A value of a running script. -/
  | value (v : Value)
  | param (p : Param)
  /-- A control statement of no known form. -/
  | bareControl (loc : Option Loc)
  /-- An open statement of no known form. -/
  | bareOpen (loc : Option Loc)
deriving Repr, Inhabited

/-- A node of a program's tree. -/
abbrev Node := Tree String

namespace Tree

variable {ν : Type}

/-- The name of a node's kind, as messages give it. -/
def kind : Tree ν → String
  | .absent => "NoneType"
  | .template _ => "Template"
  | .block .. => "Block"
  | .forEach .. => "ForStatement"
  | .ifThen .. => "IfStatement"
  | .ifElse .. => "IfElseStatement"
  | .whileLoop .. => "WhileStatement"
  | .assign .. => "SetStatement"
  | .returnWith .. => "ReturnStatement"
  | .clearWith .. => "ClearStatement"
  | .call .. => "CallStatement"
  | .function .. => "Function"
  | .program .. => "Program"
  | .value _ => "Value"
  | .param _ => "FormalParameter"
  | .bareControl _ => "ControlStatement"
  | .bareOpen _ => "OpenStatement"

/-- Control statements: their result is dropped where they stand as a statement. -/
def isControl : Tree ν → Bool
  | .forEach .. | .ifThen .. | .ifElse .. | .whileLoop .. | .bareControl _ => true
  | _ => false

/-- Open statements: their result is added to that of the block they stand in. -/
def isOpen : Tree ν → Bool
  | .assign .. | .returnWith .. | .clearWith .. | .call .. | .bareOpen _ => true
  | _ => false

/-- Blocks. -/
def isBlock : Tree ν → Bool
  | .block .. => true
  | _ => false

/-- Nothing stands here. -/
def isAbsent : Tree ν → Bool
  | .absent => true
  | _ => false

end Tree

/-- The definition of a function, over the type of names. -/
structure FunctionOf (ν : Type) where
  name : ν
  params : List Param
  body : Tree ν
  source : Option ν := none
  loc : Option Loc := none
deriving Repr, Inhabited

/-- A program, over the type of names: its functions, and the statements to execute. -/
structure ProgramOf (ν : Type) where
  functions : List (FunctionOf ν) := []
  executions : List (Tree ν) := []
deriving Repr, Inhabited

/-- The definition of a function. -/
abbrev Function := FunctionOf String

/-- A program. -/
abbrev Program := ProgramOf String

/-- A function as a node of a tree. -/
def FunctionOf.toTree {ν : Type} (f : FunctionOf ν) : Tree ν :=
  .function f.name f.params f.body f.source f.loc

/-- A program as a node of a tree. -/
def ProgramOf.toTree {ν : Type} (p : ProgramOf ν) : Tree ν :=
  .program (p.functions.map FunctionOf.toTree) p.executions none

end TextShell
