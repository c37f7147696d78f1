import TextShell.Decimal.RealText
import TextShell.Document.Yaml.Scalar
import TextShell.Document.Yaml.Token

/-!
# Writing YAML

Documents are written as indented blocks, each level by two columns; a list that is the value of an
entry is not indented further. An empty list or mapping is written in brackets. A text stands without
quotes if it is then read back as the same text, in single quotes if all of it can be printed, and in
double quotes otherwise. A line that has grown too wide is broken at the next blank that folds back into
one, except in a key. A document that is one plain scalar is closed by a line of three dots.
-/

namespace TextShell.Yaml

/-- Reals in YAML, which have a point before the exponent. -/
def realFormat : Decimal.RealFormat :=
  { notANumber := ".nan", infinity := ".inf", fractionBeforeExponent := true }

/-! ## Styles -/

/-- What the characters of a text allow. -/
structure TextTraits where
  hasBreak : Bool
  /-- A character that has to be escaped. -/
  hasSpecial : Bool
  /-- A character, in its place, that means something outside quotes. -/
  hasIndicator : Bool
  /-- A blank or a line break at one of the ends. -/
  hasBlankEnd : Bool
  /-- A blank before a line break, or the other way round. -/
  hasBlankAtBreak : Bool
deriving Repr, DecidableEq

/-- The pairs of neighbours of a list. -/
def neighbours {α : Type} (s : List α) : List (α × α) := s.zip s.tail

/-- The first character means something, given whether a gap follows it. -/
def isFirstIndicator (c : Char) (beforeGap : Bool) : Bool :=
  "#,[]\x7b\x7d&*!|>'\"%@`".toList.contains c || ((c == '?' || c == ':' || c == '-') && beforeGap)

/-- Two neighbours mean something together: a colon before a gap, or a number sign behind one. -/
def isIndicatorPair (a b : Char) : Bool := (a == ':' && isGap b) || (isGap a && b == '#')

/-- Some character of a text means something where it stands. -/
def hasIndicator (s : List Char) : Bool :=
  s.take 3 == ['-', '-', '-'] || s.take 3 == ['.', '.', '.'] ||
    (match s with
      | [] => false
      | c :: rest => isFirstIndicator c (isGap (rest.headD endMark))) ||
    s.getLast? == some ':' || (neighbours s).any fun pair => isIndicatorPair pair.1 pair.2

/-- The traits of a text. -/
def textTraits (s : List Char) : TextTraits where
  hasBreak := s.contains '\n'
  hasSpecial := s.any fun c => !(c == '\n' || (' ' ≤ c && c ≤ '~'))
  hasIndicator := hasIndicator s
  hasBlankEnd := [s.head?, s.getLast?].any fun c => c == some ' ' || c == some '\n'
  hasBlankAtBreak := (neighbours s).any fun pair => pair == (' ', '\n') || pair == ('\n', ' ')

/-- How a scalar is written. -/
inductive Style where
  | plain | single | double
deriving Repr, DecidableEq, Inhabited

/-- The style of a text. -/
def textStyle (s : String) : Style :=
  let traits := textTraits s.toList
  if Tag.ofPlain s == .text && !traits.hasIndicator && !traits.hasBreak && !traits.hasSpecial &&
      !traits.hasBlankEnd then .plain
  else if !traits.hasSpecial && !traits.hasBlankAtBreak then .single
  else .double

/-! ## Layout -/

/-- What has been written, and where that leaves off. -/
structure Page where
  text : String := ""
  column : Nat := 0
  /-- A blank or the start of a line comes before this point. -/
  afterBlank : Bool := true
  /-- Nothing but indentation and marks of entries stands on the line. -/
  onlyIndent : Bool := true

namespace Page

/-- Writes text. -/
def write (p : Page) (s : String) : Page :=
  { p with text := p.text ++ s, column := p.column + s.length }

/-- Starts a line. -/
def newline (p : Page) : Page := ⟨p.text ++ "\n", 0, true, true⟩

/-- Goes to a column, on a new line if this one is used already. -/
def indentTo (p : Page) (column : Nat) : Page :=
  let p := if !p.onlyIndent || column < p.column || (p.column == column && !p.afterBlank)
    then p.newline else p
  if p.column < column then
    { p.write (String.ofList (List.replicate (column - p.column) ' ')) with afterBlank := true }
  else p

/-- Writes a mark, apart from what is before it if asked for. -/
def mark (p : Page) (s : String) (apart : Bool) (startsEntry : Bool := false) : Page :=
  let p := p.write (if apart && !p.afterBlank then " " ++ s else s)
  { p with afterBlank := false, onlyIndent := p.onlyIndent && startsEntry }

/-- The escape of a character in double quotes. -/
def escape (c : Char) : List Char :=
  let short := [(0, '0'), (7, 'a'), (8, 'b'), (9, 't'), (10, 'n'), (11, 'v'), (12, 'f'), (13, 'r'),
    (27, 'e'), (34, '"'), (92, '\\'), (0x85, 'N'), (0xA0, '_'), (0x2028, 'L'), (0x2029, 'P')]
  let hex (width : Nat) := (Text.hex width c.toNat).map Char.toUpper
  match short.lookup c.toNat with
  | some letter => ['\\', letter]
  | none =>
    if ' ' ≤ c && c ≤ '~' then [c]
    else if c.toNat ≤ 0xFF then '\\' :: 'x' :: hex 2
    else if c.toNat ≤ 0xFFFF then '\\' :: 'u' :: hex 4
    else '\\' :: 'U' :: hex 8

/-- The column from which on a line is broken where it can be. -/
def bestWidth : Nat := 80

/-- Writes blanks. A single one gives way to a line break if it may and the line is too wide. -/
def blanks (p : Page) (column : Nat) (mayBreak : Bool) (count : Nat) : Page :=
  if count == 1 && mayBreak && bestWidth < p.column then p.indentTo column
  else p.write (String.ofList (List.replicate count ' '))

/-- The text of a plain scalar behind `count` blanks. -/
def plain (column : Nat) (split : Bool) (count : Nat) (p : Page) : List Char → Page
  | [] => p.blanks column false count
  | ' ' :: rest => plain column split (count + 1) p rest
  | c :: rest =>
    let q := p.blanks column split count
    let q := { q with afterBlank := false, onlyIndent := false }
    plain column split 0 (q.write (String.ofList [c])) rest

/-- The text inside single quotes, indented to `column`, behind `count` blanks, which may be those it
starts with. A quote is written twice, and a run of line breaks has one more, which folds away. -/
def singleQuoted (column : Nat) (split afterBreak isStart : Bool) (count : Nat) (p : Page) :
    List Char → Page
  | [] => if afterBreak then p.indentTo column else p.blanks column false count
  | ' ' :: rest =>
    let p := if afterBreak then p.indentTo column else p
    singleQuoted column split false isStart (count + 1) p rest
  | c :: rest =>
    let p := p.blanks column (split && !isStart) count
    if c == '\n' then
      let p := if afterBreak then p else p.newline
      singleQuoted column split true false 0 p.newline rest
    else
      let p := if afterBreak then p.indentTo column else p
      let p := p.write (if c == '\'' then "''" else String.ofList [c])
      singleQuoted column split false false 0 p rest

/-- Breaks a line inside double quotes; a blank at the start of the next line is escaped. -/
def breakDouble (column : Nat) (p : Page) (next : Option Char) : Page :=
  let p := (p.write "\\").indentTo column
  let p := { p with afterBlank := false, onlyIndent := false }
  if next == some ' ' then p.write "\\" else p

/-- The text inside double quotes, behind the characters `held`, which are in reverse and not written
yet. A line is broken before a blank or behind an escape, but not at the ends of the text. -/
def doubleQuoted (column : Nat) (split isStart : Bool) (held : List Char) (p : Page) :
    List Char → Page
  | [] => p.write (String.ofList held.reverse)
  | c :: rest =>
    let mayBreak := split && !isStart && !rest.isEmpty
    let written := escape c
    if written == [c] then
      if mayBreak && (c == ' ' || held.isEmpty) && bestWidth < p.column + held.length then
        let p := (p.write (String.ofList held.reverse)).breakDouble column (some c)
        doubleQuoted column split false [c] p rest
      else doubleQuoted column split false (c :: held) p rest
    else
      let p := p.write (String.ofList (held.reverse ++ written))
      let p := if mayBreak && bestWidth + 1 < p.column then p.breakDouble column rest.head? else p
      doubleQuoted column split false [] p rest

/-- Writes a text in a style. Lines after the first are indented to `column`; there are none but those
of the text itself unless it may be `split`. -/
def scalar (p : Page) (style : Style) (column : Nat) (split : Bool) (s : String) : Page :=
  match style with
  | .plain => plain column split 0 (p.mark "" true) s.toList
  | .single =>
    (singleQuoted column split false true 0 (p.mark "'" true) s.toList).mark "'" false
  | .double => (doubleQuoted column split true [] (p.mark "\"" true) s.toList).mark "\"" false

end Page

/-- The plain form of a scalar that is no text. -/
def plainForm : Document → String
  | .bool b => if b then "true" else "false"
  | .integer n => toString n
  | .real x => realFormat.write x
  | .day d => d.text
  | .moment m => m.text
  | _ => "null"

/-- Writes a scalar. -/
def writeScalar (p : Page) (column : Nat) (split : Bool) (d : Document) : Page :=
  match d with
  | .text s => p.scalar (textStyle s) column split s
  | other => p.mark (plainForm other) true

/-- The number of characters of the tag that a scalar could have. -/
def tagLength : Document → Nat
  | .real _ => 7
  | .bool _ | .null => 6
  | _ => 5

/-- The key shares its line with its value: it is not empty, not broken and not too long. -/
def isInlineKey : Document → Bool
  | .text s => !s.isEmpty && !s.toList.any (fun c => isBreak c && c != '\r') && s.length + 5 < 128
  | .list items | .tuple items => items.isEmpty
  | .mapping entries => entries.isEmpty
  | other => tagLength other + (plainForm other).length < 128

mutual

/-- Writes a document whose surroundings are indented by `indent`; `none` at the top. -/
def writeNode (indent : Option Nat) (isEntry : Bool) (p : Page) : Document → Page
  | .list items | .tuple items =>
    if items.isEmpty then p.mark "[]" true
    else
      let isLoose := isEntry && !p.onlyIndent
      let inner := match indent with
        | none => 0
        | some n => if isLoose then n else n + 2
      writeItems inner p items
  | .mapping entries =>
    if entries.isEmpty then p.mark "\x7b\x7d" true
    else writeEntries ((indent.map (· + 2)).getD 0) p entries
  | .value v =>
    let inner := (indent.map (· + 2)).getD 0
    let p := (writeScalar (p.indentTo inner) (inner + 2) false (.text "text")).mark ":" false
    let p := writeScalar p (inner + 2) true (.text v.text)
    let p := (writeScalar (p.indentTo inner) (inner + 2) false (.text "status")).mark ":" false
    writeScalar p (inner + 2) true (.integer v.status)
  | other => writeScalar p ((indent.map (· + 2)).getD 2) true other

/-- Writes the items of a list at a column. -/
def writeItems (indent : Nat) (p : Page) : List Document → Page
  | [] => p
  | item :: rest =>
    writeItems indent (writeNode (some indent) false ((p.indentTo indent).mark "-" true true) item) rest

/-- Writes the entries of a mapping at a column. -/
def writeEntries (indent : Nat) (p : Page) : List (Document × Document) → Page
  | [] => p
  | (key, held) :: rest =>
    let p := p.indentTo indent
    let p :=
      if isInlineKey key then
        match key with
        | .list _ | .tuple _ => (p.mark "[]" true).mark ":" false
        | .mapping _ => (p.mark "\x7b\x7d" true).mark ":" false
        | scalar => (writeScalar p (indent + 2) false scalar).mark ":" false
      else ((writeNode (some indent) true (p.mark "?" true true) key).indentTo indent).mark ":" true true
    writeEntries indent (writeNode (some indent) true p held) rest

end

/-- The document is a scalar that is written plain. -/
def isPlainScalar : Document → Bool
  | .text s => textStyle s == .plain
  | .list _ | .tuple _ | .mapping _ | .value _ => false
  | _ => true

/-- Writes a document. -/
def write (d : Document) : String :=
  let p := (writeNode none false {} d).indentTo 0
  p.text ++ if isPlainScalar d then "...\n" else ""

end TextShell.Yaml
