import TextShell.Builtin.Operation
import TextShell.Eval.Host

/-!
# Calling the built-in functions

Which operation a built-in function stands for at a number of arguments. Most functions depend on their
arguments alone; those that print, draw, make requests or look at the registry are told apart.
-/

namespace TextShell.Builtin

/-- The functions that depend on their arguments alone; `none` for those that do not, and for a number
of arguments that the function does not take. -/
def pure? : Builtin → List Value → Option Operation.Answer
  | .put newline, arguments =>
    some (.ok (.truthy ((Value.join arguments).text ++ if newline then "\n" else "")))
  | .status, [v] => some (Operation.statusOf v)
  | .status, [v, code] => some (Operation.withStatus v code)
  | .truth holds, [] => some (.ok (.ofTest holds))
  | .compare op, [a, b] => some (Operation.compareNumbers op a b)
  | .like, [a, b] => some (.ok (.ofTest (a.text == b.text)))
  | .both, [a, b] => some (.ok (.ofTest (a.isTruthy && b.isTruthy)))
  | .either, [a, b] => some (.ok (.ofTest (a.isTruthy || b.isTruthy)))
  | .negation, [a] => some (.ok (.ofTest !a.isTruthy))
  | .fold op, arguments => some (Operation.fold op arguments)
  | .floor, [v] => some (Operation.rounded Float.floor v)
  | .ceil, [v] => some (Operation.rounded Float.ceil v)
  | .range, [high] => some (Operation.range ⟨"0", 0⟩ high ⟨"1", 0⟩ " ")
  | .range, [low, high] => some (Operation.range low high ⟨"1", 0⟩ " ")
  | .range, [low, high, step] => some (Operation.range low high step " ")
  | .range, [low, high, step, separator] => some (Operation.range low high step separator.text)
  | .len, [list] => some (.ok (Operation.len list none))
  | .len, [list, separator] => some (.ok (Operation.len list (some separator)))
  | .first, [list, count] => some (Operation.first list count none)
  | .first, [list, count, separator] => some (Operation.first list count (some separator))
  | .last, [list, count] => some (Operation.last list count none)
  | .last, [list, count, separator] => some (Operation.last list count (some separator))
  | .append, [left, right] => some (.ok (Operation.append left right none))
  | .append, [left, right, separator] => some (.ok (Operation.append left right (some separator)))
  | .upper, arguments => some (.ok (Operation.mapText Text.upper arguments))
  | .lower, arguments => some (.ok (Operation.mapText Text.lower arguments))
  | .replace, [target, old, new] => some (.ok (Operation.replace target old new))
  | .search, [target, pattern] => some (Operation.search target pattern)
  | .isAlpha, arguments => some (.ok (Operation.allChars Text.isLetter arguments))
  | .isAlphanumeric, arguments => some (.ok (Operation.allChars Text.isWordChar arguments))
  | .gron, [source] => some (Operation.gron source)
  | _, _ => none

/-- The answer of a pure function as a reply. -/
def reply : Operation.Answer → Reply
  | .ok v => .value v
  | .error fault => .fault fault

/-- The answer of a function that changes the outside, as a reply. -/
def replyFrom (answer : Operation.Answer × World) : Reply × World := (reply answer.1, answer.2)

/-- Calls a built-in function. The number of arguments is one that the function takes; any other is
reported as a function that returns nothing. -/
def call {H : Type} (builtin : Builtin) (registry : Registry H) (arguments : List Value) (w : World) :
    Reply × World :=
  match builtin, arguments with
  | .print newline, arguments =>
    let text := (Value.join arguments).text ++ if newline then "\n" else ""
    (.value .truthy, w.emit "stdout" text)
  | .random, [high] => replyFrom (Operation.random ⟨"0", 0⟩ high w)
  | .random, [low, high] => replyFrom (Operation.random low high w)
  | .get, [url] => replyFrom (Operation.get url.text none w)
  | .get, [url, timeout] => replyFrom (Operation.get url.text (some timeout) w)
  | .eval, arguments => (.evaluate (Value.join arguments).text, w)
  | .listing hosts scripts, arguments =>
    let filter : Registry.ListingFilter := ⟨hosts, scripts, arguments.head?.map Value.text⟩
    (.value (.truthy (registry.listing filter)), w)
  | _, _ =>
    match builtin.pure? arguments with
    | some answer => (reply answer, w)
    | none => (.foreign "NoneType", w)

/-- The host of the built-in functions. -/
def host : Host Builtin := ⟨call⟩

end TextShell.Builtin
