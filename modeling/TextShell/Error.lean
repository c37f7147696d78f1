/-!
# Errors of scripts

The errors that end the execution of a script. The wording is given once, here.
-/

namespace TextShell

/-- Why the execution of a script ended. -/
inductive ScriptError where
  | undeclaredVariable (name : String)
  | unknownFunction (name : String)
  | noMatchingOverload (name : String) (count : Int)
  | callDepthExceeded (limit : Int)
  /-- The tree asked for something that has no meaning. -/
  | internal (detail : String)
deriving Repr, DecidableEq, Inhabited

namespace ScriptError

/-- The kind under which an error is reported. -/
def kind : ScriptError → String
  | .undeclaredVariable _ => "UndeclaredVariable"
  | .unknownFunction _ => "UnknownFunction"
  | .noMatchingOverload .. => "NoMatchingOverload"
  | .callDepthExceeded _ => "CallDepthExceeded"
  | .internal _ => "InternalError"

/-- The words of an error. -/
def message : ScriptError → String
  | .undeclaredVariable name => "Use of undeclared variable `" ++ name ++ "`"
  | .unknownFunction name => "Use of undefined function `" ++ name ++ "`"
  | .noMatchingOverload name count =>
    "no overload for function `" ++ name ++ "` takes `" ++ toString count ++ "` arguments"
  | .callDepthExceeded limit => "maximum call depth of " ++ toString limit ++ " exceeded"
  | .internal detail =>
    if detail.isEmpty then "Internal runtime error"
    else "Internal runtime error (" ++ detail ++ ")"

/-- An error as one line. -/
def describe (e : ScriptError) : String := e.kind ++ ": " ++ e.message

end ScriptError

/-- A script tried to define a function that is built in. -/
structure OverloadRejected where
  name : String
deriving Repr, DecidableEq, Inhabited

/-- The words of a rejection. -/
def OverloadRejected.message (e : OverloadRejected) : String :=
  "Can not overload built-in function `" ++ e.name ++ "`"

/-- A rejection as one line. -/
def OverloadRejected.describe (e : OverloadRejected) : String :=
  "OverloadRejected: " ++ e.message

end TextShell
