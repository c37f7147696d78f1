import TextShell.Text.Quoted
import TextShell.Program.Node

/-!
# Printing programs

A tree is written back as source, one statement a line and each level of blocks indented by a fixed
width. What is no part of the language is shown in the form that messages give it.
-/

namespace TextShell

/-- The template that yields the text of a value. -/
def Value.toTemplate (v : Value) : Template :=
  ⟨v.text, if v.text.isEmpty then [] else [⟨.literal, 0, v.text.length⟩]⟩

/-- A parameter outside a parameter list. -/
def Param.describe (p : Param) : String :=
  "FormalParameter(name=" ++ Text.quote p.name ++ ", is_variadic=" ++
    (if p.isVariadic then "True" else "False") ++ ")"

/-- The head of a function's definition. -/
def signature (name : String) (params : List Param) : String :=
  "fn " ++ name ++ "(" ++ ", ".intercalate (params.map Param.print) ++ ")"

/-- The blanks in front of a line at `level`; below the first level there are none. -/
def indent (width : Nat) (level : Int) : String :=
  String.ofList (List.replicate (width * level.toNat) ' ')

namespace Tree

mutual

/-- A node at `level`, with `width` blanks for each level. -/
def printAt (width : Nat) (level : Int) : Node → String
  | .absent => "None"
  | .template t => t.print
  | .block executions _ =>
    if executions.isEmpty then "\x7b\x7d"
    else
      let inner := indent width (level + 1)
      let lines := (printList width (level + 1) executions).map (inner ++ ·)
      "\x7b\n" ++ "\n".intercalate lines ++ "\n" ++ indent width level ++ "\x7d"
  | .forEach target list body separator _ =>
    "for " ++ target ++ " in " ++ list.printAt width level ++
      (if separator.isAbsent then "" else " split " ++ separator.printAt width level) ++
      " " ++ body.printAt width level
  | .ifThen condition body _ =>
    "if " ++ condition.printAt width level ++ " " ++ body.printAt width level
  | .ifElse condition trueBody falseBody _ =>
    "if " ++ condition.printAt width level ++ " " ++ trueBody.printAt width level ++
      " else " ++ falseBody.printAt width level
  | .whileLoop condition body _ =>
    "while " ++ condition.printAt width level ++ " " ++ body.printAt width level
  | .assign target held _ => target ++ " = " ++ held.printAt width level
  | .returnWith held _ =>
    if held.isAbsent then "return" else "return " ++ held.printAt width level
  | .clearWith held _ =>
    if held.isAbsent then "clear" else "clear " ++ held.printAt width level
  | .call name arguments _ =>
    name ++ "(" ++ ", ".intercalate (printList width level arguments) ++ ")"
  | .function name params body _ _ => signature name params ++ " " ++ body.printAt width level
  | .program functions executions _ =>
    "\n".intercalate (printList width level functions ++ printList width level executions)
  | .value v => v.toTemplate.print
  | .param p => p.describe
  | .bareControl _ => "<ControlStatement>"
  | .bareOpen _ => "<OpenStatement>"

/-- Each node of a list at `level`. -/
def printList (width : Nat) (level : Int) : List Node → List String
  | [] => []
  | node :: rest => node.printAt width level :: printList width level rest

end

end Tree

/-- The blanks for one level of blocks. -/
def standardIndent : Nat := 4

/-- A program as source. -/
def Program.print (p : Program) (width : Nat := standardIndent) : String :=
  p.toTree.printAt width 0

/-- A function as source. -/
def Function.print (f : Function) : String := f.toTree.printAt standardIndent 0

end TextShell
