import TextShell.Registry

/-!
# The built-in functions

Which built-in functions there are, under which names and with which parameters. What they do is in
`TextShell.Builtin.Call`.
-/

namespace TextShell

/-- Comparisons of numbers. -/
inductive Comparison where
  | eq | neq | lt | gt | leq | geq
deriving Repr, DecidableEq, Inhabited

/-- Operations that fold numbers from the left. -/
inductive Arithmetic where
  | add | sub | mul | div | max | min
deriving Repr, DecidableEq, Inhabited

/-- A built-in function. -/
inductive Builtin where
  | fold (op : Arithmetic)
  | both
  | append
  | listing (hosts scripts : Bool)
  | ceil
  | compare (op : Comparison)
  | eval
  | truth (holds : Bool)
  | first
  | floor
  | get
  | gron
  | isAlpha
  | isAlphanumeric
  | last
  | len
  | like
  | lower
  | negation
  | either
  | put (newline : Bool)
  | print (newline : Bool)
  | random
  | range
  | replace
  | search
  | status
  | upper
deriving Repr, DecidableEq, Inhabited

namespace Builtin

/-- The built-in functions in the order in which they are registered: by name, and each name with its
parameter lists. -/
def table : List (String × Builtin × List (List String)) := [
  ("add", .fold .add, [["first", "%others"]]),
  ("and", .both, [["a", "b"]]),
  ("append", .append, [["left", "right", "sep"], ["left", "right"]]),
  ("builtins", .listing true false, [["name"], []]),
  ("ceil", .ceil, [["x"]]),
  ("div", .fold .div, [["first", "%others"]]),
  ("eq", .compare .eq, [["a", "b"]]),
  ("eval", .eval, [["%source"]]),
  ("false", .truth false, [[]]),
  ("first", .first, [["arr", "n", "sep"], ["arr", "n"]]),
  ("floor", .floor, [["x"]]),
  ("functions", .listing true true, [["name"], []]),
  ("geq", .compare .geq, [["a", "b"]]),
  ("get", .get, [["url", "timeout"], ["url"]]),
  ("gron", .gron, [["input"]]),
  ("gt", .compare .gt, [["a", "b"]]),
  ("is_alpha", .isAlpha, [["%args"]]),
  ("is_alphanumeric", .isAlphanumeric, [["%args"]]),
  ("last", .last, [["arr", "n", "sep"], ["arr", "n"]]),
  ("len", .len, [["arr", "sep"], ["arr"]]),
  ("leq", .compare .leq, [["a", "b"]]),
  ("like", .like, [["a", "b"]]),
  ("lower", .lower, [["%args"]]),
  ("lt", .compare .lt, [["a", "b"]]),
  ("max", .fold .max, [["first", "%others"]]),
  ("min", .fold .min, [["first", "%others"]]),
  ("mul", .fold .mul, [["first", "%others"]]),
  ("neq", .compare .neq, [["a", "b"]]),
  ("not", .negation, [["a"]]),
  ("or", .either, [["a", "b"]]),
  ("pln", .put true, [["%in"]]),
  ("print", .print false, [["%in"]]),
  ("println", .print true, [["%in"]]),
  ("put", .put false, [["%in"]]),
  ("random", .random, [["min", "max"], ["max"]]),
  ("range", .range, [["min", "max", "step", "sep"], ["min", "max", "step"], ["min", "max"], ["max"]]),
  ("replace", .replace, [["target", "from", "to"]]),
  ("scripts", .listing false true, [["name"], []]),
  ("search", .search, [["target", "pattern"]]),
  ("status", .status, [["value", "status"], ["value"]]),
  ("sub", .fold .sub, [["first", "%others"]]),
  ("true", .truth true, [[]]),
  ("upper", .upper, [["%args"]])]

/-- The overloads of the built-in functions under their names, as entries of a host `H`. -/
def entries {H : Type} (entry : Builtin → H) : List (String × Overload H) :=
  table.flatMap fun (name, builtin, overloads) =>
    overloads.map fun params => (name, ⟨params.map Param.ofText, .host (entry builtin), none⟩)

/-- The registry that holds the built-in functions and nothing else. -/
def library {H : Type} (entry : Builtin → H) : Registry H :=
  (({} : Registry H).registerAll (entries entry)).1

end Builtin

end TextShell
