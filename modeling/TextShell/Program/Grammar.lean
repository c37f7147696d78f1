import TextShell.Program.Cursor
import TextShell.Program.Element

/-!
# The grammar

Statements are separated by line ends or `;`, and `#` starts a comment. The grammar is one of ordered
choice: the first alternative that accepts is final, repetitions are greedy, and the whole source must
be taken. Where two statements begin alike, as `if` with and without `else`, the common part is read
once; what is accepted is the same.

The rules refer to one another only through `value` and `execution`, so they are written over those
two as parameters and `Rule.parse` ties the knot. Every reference stands behind a character that its
rule has taken, so the length of the source bounds the depth.
-/

namespace TextShell

namespace Grammar

/-- The element of what `p` takes, under the tag that `p` decides on. -/
def element (p : Parser (Tag × List Element)) : Parser Element := do
  let start ← get
  let (tag, children) ← p
  let stop ← get
  let text := String.ofList (start.rest.take (stop.offset - start.offset))
  return .mk tag (some (.text text)) (.integer start.line) (.integer start.col) children none

/-- The element of what `p` takes. -/
def tagged (tag : Tag) (p : Parser (List Element)) : Parser Element :=
  element (do return (tag, ← p))

/-- The element of a terminal. -/
def leaf (tag : Tag) (p : Parser Unit) : Parser Element :=
  element (do p; return (tag, []))

/-- The words that cannot name a function. -/
def reserved : List String := ["fn", "for", "if", "else", "while", "return", "clear"]

/-- A variable's name. -/
def variableName : Parser Element := leaf .variableName (Parser.take nameLength?)

/-- A function's name. -/
def functionName : Parser Element :=
  leaf .functionName (Parser.take fun s =>
    if startsWithWord reserved s then none else nameLength? s)

/-- A parameter's name, behind `%` if it is variadic. -/
def formalParam : Parser Element :=
  leaf .formalParam (Parser.take fun s =>
    match s with
    | '%' :: rest => (nameLength? rest).map (· + 1)
    | _ => nameLength? s)

/-- A string in double quotes. -/
def dquoteString : Parser Element :=
  leaf .dquoteString (do Parser.char '"'; Parser.take (quotedLength? '"'))

/-- A string in single quotes. -/
def squoteString : Parser Element :=
  leaf .squoteString (do Parser.char '\''; Parser.take (quotedLength? '\''))

/-- A string without quotes. It is not one of the words that may follow a value. -/
def bareString : Parser Element :=
  leaf .bareString (Parser.take fun s =>
    let n := bareLength s
    if n = 0 || s.head? = some '#' || startsWithWord ["else", "split"] s then none else some n)

section Rules

variable (value execution : Parser Element)

/-- Executions between braces. -/
def block : Parser Element :=
  tagged .block do
    Parser.char '{'
    Parser.gap
    let executions ← Parser.sepBy execution Parser.separator <|> pure []
    Parser.gap
    Parser.char '}'
    return executions

/-- `for` over the pieces of a value, with or without `split`. -/
def forStatement : Parser Element :=
  element do
    Parser.keyword "for"
    Parser.space
    let target ← variableName
    Parser.space
    Parser.keyword "in"
    Parser.space
    let list ← value
    (do
      Parser.space
      Parser.keyword "split"
      Parser.space
      let separator ← value
      Parser.blank
      let body ← value
      return (.forSplitStmt, [target, list, separator, body])) <|> (do
      Parser.blank
      let body ← value
      return (.forStmt, [target, list, body]))

/-- `if`, with or without `else`. -/
def ifStatement : Parser Element :=
  element do
    Parser.keyword "if"
    Parser.space
    let condition ← value
    Parser.blank
    let body ← value
    (do
      Parser.blank
      Parser.keyword "else"
      Parser.blank
      let falseBody ← value
      return (.ifElseStmt, [condition, body, falseBody])) <|>
      return (.ifStmt, [condition, body])

/-- `while`. -/
def whileStatement : Parser Element :=
  tagged .whileStmt do
    Parser.keyword "while"
    Parser.space
    let condition ← value
    Parser.blank
    let body ← value
    return [condition, body]

/-- The statements that may also stand for a value. -/
def controlStatement : Parser Element :=
  forStatement value <|> ifStatement value <|> whileStatement value

/-- `name = value`. -/
def setStatement : Parser Element :=
  tagged .setStmt do
    let target ← variableName
    Parser.space?
    Parser.char '='
    Parser.space?
    let held ← value
    return [target, held]

/-- A keyword with an optional value on its line. -/
def optionalValue (tag : Tag) (word : String) : Parser Element :=
  tagged tag do
    Parser.keyword word
    (do Parser.space; return [← value]) <|> pure []

/-- A call with its arguments in parentheses. -/
def parenCall : Parser Element :=
  tagged .call do
    let name ← functionName
    Parser.char '('
    Parser.blank
    let arguments ←
      Parser.sepBy value (do Parser.blank; Parser.char ','; Parser.blank) <|> pure []
    Parser.blank
    Parser.char ')'
    return name :: arguments

/-- A call with its arguments behind it on the line. -/
def shellCall : Parser Element :=
  tagged .call do
    let name ← functionName
    let fuel := (← get).rest.length
    let arguments ← Parser.many (do Parser.space; value) fuel
    return name :: arguments

/-- The statements whose result is added to that of their block. -/
def openStatement : Parser Element :=
  setStatement value <|> optionalValue value .returnStmt "return" <|>
    optionalValue value .clearStmt "clear" <|> parenCall value <|> shellCall value

/-- A statement. -/
def executionRule : Parser Element :=
  block execution <|> controlStatement value <|> openStatement value

/-- A value. -/
def valueRule : Parser Element :=
  block execution <|> controlStatement value <|> dquoteString <|> squoteString <|> bareString

/-- The definition of a function. -/
def functionRule : Parser Element :=
  tagged .function do
    Parser.keyword "fn"
    Parser.space
    let name ← functionName
    Parser.blank
    Parser.char '('
    Parser.blank
    let params ←
      Parser.sepBy formalParam (do Parser.blank; Parser.char ','; Parser.blank) <|> pure []
    Parser.blank
    Parser.char ')'
    Parser.blank
    let body ← block execution
    return name :: params ++ [body]

/-- The items of a source: functions and statements. -/
def programRule : Parser (List Element) := do
  Parser.gap
  let items ←
    Parser.sepBy (functionRule execution <|> executionRule value execution) Parser.separator <|>
      pure []
  Parser.gap
  return items

end Rules

/-- The two rules through which all others refer to one another. -/
inductive Rule where
  | value
  | execution
deriving Repr, DecidableEq, Inhabited

/-- The parser of a rule, for trees at most `fuel` deep. -/
def Rule.parse : Nat → Rule → Parser Element
  | 0, _ => fun _ => none
  | fuel + 1, .value => valueRule (Rule.parse fuel .value) (Rule.parse fuel .execution)
  | fuel + 1, .execution => executionRule (Rule.parse fuel .value) (Rule.parse fuel .execution)

/-- The items of a source that follows the grammar to its end. -/
def items? (source : String) : Option (List Element) :=
  let chars := source.toList
  let fuel := chars.length + 1
  match programRule (Rule.parse fuel .value) (Rule.parse fuel .execution) { rest := chars } with
  | some (items, stop) => if stop.rest.isEmpty then some items else none
  | none => none

end Grammar

/-- Reads a source. -/
def Program.parse (source : String) : Except SourceError Program :=
  match Grammar.items? source with
  | some items => ProgramOf.ofElements Document.name items
  | none => .error .unparsable

end TextShell
