import TextShell.Decimal.Reader
import TextShell.Fault
import TextShell.Text.Hex
import TextShell.Text.Utf8

/-!
# Tokens of YAML

Indentation is turned into tokens: a block starts where a line is further to the right than the block
around it, and ends where a line falls back. A key is noticed only when its colon is met, so the place
of everything that may turn out to be a key is remembered, one for each level of brackets, and the
tokens of the key are put in there. Such a place is forgotten at the end of its line, and where
a key has to stand that is a mistake.

Tabs do not indent. Tokens are made on demand, and no further than it takes to know the next one: as
long as what comes next may turn out to be a key, its colon is looked for. So a mistake further on does
not come before one that is met earlier.
-/

namespace TextShell.Yaml

/-- A token. -/
inductive Token where
  | streamEnd
  | directive (name : String) (arguments : List String)
  | documentStart
  | documentEnd
  | blockSequenceStart
  | blockMappingStart
  | blockEnd
  | flowSequenceStart
  | flowSequenceEnd
  | flowMappingStart
  | flowMappingEnd
  | key
  | value
  | blockEntry
  | flowEntry
  | alias (name : String)
  | anchor (name : String)
  /-- A tag: the handle, if it has one, and the rest. -/
  | tag (handle : Option String) (suffix : String)
  | scalar (text : String) (isPlain : Bool)
deriving Repr, DecidableEq, Inhabited

/-- A place that may turn out to be that of a key. -/
structure KeyPlace where
  /-- How many tokens there are before it. -/
  tokens : Nat
  /-- A key has to stand here. -/
  required : Bool
  index : Nat
  line : Nat
  column : Nat
deriving Repr, DecidableEq, Inhabited

/-- What is known while a text is scanned. -/
structure ScanState where
  rest : List Char
  /-- The length of the whole text. -/
  size : Nat
  index : Nat := 0
  line : Nat := 0
  column : Nat := 0
  tokens : Array Token := .empty
  /-- How many of the tokens have been taken. -/
  taken : Nat := 0
  /-- There are no more tokens to make. -/
  isDone : Bool := false
  /-- The kinds of brackets do not matter here, only how many are open. -/
  flowLevel : Nat := 0
  /-- The column of the block, `-1` outside any. -/
  indent : Int := -1
  /-- The columns of the blocks around it. -/
  indents : List Int := []
  keyAllowed : Bool := true
  /-- Places of keys, by their level of brackets. -/
  keyPlaces : List (Nat × KeyPlace) := []

/-- Scans some of a text. -/
abbrev Scanner := StateT ScanState (Except ReadError)

/-- The character that stands for the end of the text, in which it does not occur. -/
def endMark : Char := Char.ofNat 0

/-- Characters that break a line. -/
def isBreak (c : Char) : Bool :=
  c == '\n' || c == '\r' || c.toNat == 0x85 || c.toNat == 0x2028 || c.toNat == 0x2029

/-- The line or the text ends here. -/
def endsLine (c : Char) : Bool := c == endMark || isBreak c

/-- A blank, or the end of the line or the text. -/
def isGap (c : Char) : Bool := c == ' ' || c == '\t' || endsLine c

/-- A blank other than a tab, or the end of the line or the text. -/
def isSpaceOrEnd (c : Char) : Bool := c == ' ' || endsLine c

/-- The state behind one more character. A mark of byte order takes no column. -/
def ScanState.advance (s : ScanState) : ScanState :=
  match s.rest with
  | [] => s
  | c :: rest =>
    let s := { s with rest := rest, index := s.index + 1 }
    if isBreak c && !(c == '\r' && rest.head? == some '\n') then
      { s with line := s.line + 1, column := 0 }
    else if c.toNat == 0xFEFF then s
    else { s with column := s.column + 1 }

/-- A number that no loop over the rest of the text exceeds. -/
def ScanState.fuel (s : ScanState) : Nat := s.size - s.index + 2

/-- The state behind `count` more characters. -/
def ScanState.advanceBy (s : ScanState) : Nat → ScanState
  | 0 => s
  | count + 1 => s.advance.advanceBy count

namespace Scanner

/-- Refuses the text. -/
def malformed {α : Type} : Scanner α := throw .malformed

/-- The character that stands `ahead` characters further on. -/
def peek (ahead : Nat := 0) : Scanner Char := return ((← get).rest[ahead]?).getD endMark

/-- Takes characters. -/
def forward (count : Nat := 1) : Scanner Unit := modify fun s => s.advanceBy count

/-- Takes the characters of a class that come next. -/
def takeWhile (holds : Char → Bool) : Scanner (List Char) := do
  let taken := (← get).rest.takeWhile holds
  forward taken.length
  return taken

/-- Adds a token. -/
def push (token : Token) : Scanner Unit := modify fun s => { s with tokens := s.tokens.push token }

/-- Takes a line break, if there is one. All of them are one character, and most are `\n`. -/
def lineBreak : Scanner (List Char) := do
  let c ← peek
  if c == '\r' && (← peek 1) == '\n' then
    forward 2
    return ['\n']
  else if isBreak c then
    forward
    return [if c.toNat == 0x2028 || c.toNat == 0x2029 then c else '\n']
  else return []

/-- Three characters that separate documents come next. -/
def atSeparator : Scanner Bool := do
  let rest := (← get).rest
  let next := rest.take 3
  return (next == ['-', '-', '-'] || next == ['.', '.', '.']) && isGap (rest[3]?.getD endMark)

/-- Takes blanks, comments and line breaks. -/
def skipBetween : Nat → Scanner Unit
  | 0 => return ()
  | fuel + 1 => do
    if (← get).index == 0 && (← peek).toNat == 0xFEFF then forward
    discard (takeWhile (· == ' '))
    if (← peek) == '#' then discard (takeWhile fun c => !endsLine c)
    if !(← lineBreak).isEmpty then
      modify fun s => if s.flowLevel == 0 then { s with keyAllowed := true } else s
      skipBetween fuel

/-- The places of keys that are still good. -/
def keepPlaces (holds : Nat × KeyPlace → Bool) : Scanner Unit := do
  let s ← get
  if s.keyPlaces.any fun place => !holds place && place.2.required then malformed
  set { s with keyPlaces := s.keyPlaces.filter holds }

/-- Forgets the places of keys on other lines, and those too far back. -/
def dropStale : Scanner Unit := do
  let s ← get
  keepPlaces fun place => place.2.line == s.line && s.index - place.2.index ≤ 1024

/-- Forgets the place of a key on this level of brackets. -/
def dropPlace : Scanner Unit := do
  let s ← get
  keepPlaces fun place => place.1 != s.flowLevel

/-- Remembers that a key may stand here. -/
def savePlace : Scanner Unit := do
  let s ← get
  if s.keyAllowed then
    dropPlace
    modify fun t =>
      { t with
        keyPlaces :=
          (s.flowLevel,
            ⟨s.tokens.size, s.flowLevel == 0 && s.indent == s.column, s.index, s.line, s.column⟩) ::
            t.keyPlaces }

/-- Says whether a key may stand next. -/
def allowKey (allowed : Bool) : Scanner Unit := modify fun s => { s with keyAllowed := allowed }

/-- Ends the blocks that are further to the right than `column`. -/
def unwind (column : Int) : Nat → Scanner Unit
  | 0 => return ()
  | fuel + 1 => do
    let s ← get
    if s.flowLevel == 0 && column < s.indent then
      set { s with indent := s.indents.headD (-1), indents := s.indents.tail }
      push .blockEnd
      unwind column fuel

/-- Ends the blocks that are further to the right than `column`. -/
def unwindTo (column : Int) : Scanner Unit := do unwind column ((← get).indents.length + 1)

/-- Starts a block at `column` if the current one is further to the left; says whether it did. -/
def indentTo (column : Nat) : Scanner Bool := do
  let s ← get
  if s.indent < column then
    set { s with indents := s.indent :: s.indents, indent := column }
    return true
  else return false

/-- Letters of names. -/
def isNameChar (c : Char) : Bool := c.isAlphanum || c == '-' || c == '_'

/-! ## Directives, anchors and tags -/

/-- Characters of a tag. -/
def isTagChar (c : Char) : Bool := isNameChar c || ";/?:@&=+$,.!~*'()[]".toList.contains c

/-- The bytes of a tag that are written by their numbers. -/
def tagBytes : Nat → Scanner (List Nat)
  | 0 => return []
  | fuel + 1 => do
    if (← peek) != '%' then return []
    match Text.hexValue? (← peek 1), Text.hexValue? (← peek 2) with
    | some high, some low =>
      forward 3
      return (high * 16 + low) :: (← tagBytes fuel)
    | _, _ => malformed

/-- The characters of a tag behind its handle. -/
def tagChars : Nat → Scanner (List Char)
  | 0 => return []
  | fuel + 1 => do
    let c ← peek
    if c == '%' then
      match Text.decodeStrict? (← tagBytes fuel) with
      | some chars => return chars ++ (← tagChars fuel)
      | none => malformed
    else if isTagChar c then
      forward
      return c :: (← tagChars fuel)
    else return []

/-- What stands in a tag behind its handle. -/
def tagText : Scanner String := do
  let text ← tagChars (← get).fuel
  if text.isEmpty then malformed
  return String.ofList text

/-- The handle of a tag, from one mark to the next. -/
def tagHandle : Scanner String := do
  if (← peek) != '!' then malformed
  forward
  if (← peek) == ' ' then return "!"
  let name ← takeWhile isNameChar
  if (← peek) == '!' then
    forward
    return "!" ++ String.ofList name ++ "!"
  else malformed

/-- Takes the rest of a line on which nothing may follow but a comment. -/
def emptyRest : Scanner Unit := do
  discard (takeWhile (· == ' '))
  if (← peek) == '#' then discard (takeWhile fun c => !endsLine c)
  if !endsLine (← peek) then malformed
  discard lineBreak

/-- A number of a version. -/
def versionNumber : Scanner String := do
  let digits ← takeWhile Char.isDigit
  if digits.isEmpty then malformed
  if Decimal.digitLimit < digits.length then throw (.failed (.numeralTooLong digits.length))
  return String.ofList digits

/-- What a directive says. -/
def directiveArguments (name : String) : Scanner (List String) := do
  if name == "YAML" then
    discard (takeWhile (· == ' '))
    let major ← versionNumber
    if (← peek) != '.' then malformed
    forward
    let minor ← versionNumber
    if !isSpaceOrEnd (← peek) then malformed
    return [major, minor]
  else if name == "TAG" then
    discard (takeWhile (· == ' '))
    let handle ← tagHandle
    if (← peek) != ' ' then malformed
    discard (takeWhile (· == ' '))
    let text ← tagText
    if !isSpaceOrEnd (← peek) then malformed
    return [handle, text]
  else
    discard (takeWhile fun c => !endsLine c)
    return []

/-- A directive. -/
def directive : Scanner Unit := do
  unwindTo (-1)
  dropPlace
  allowKey false
  forward
  let name := String.ofList (← takeWhile isNameChar)
  if name.isEmpty || !isSpaceOrEnd (← peek) then malformed
  let arguments ← directiveArguments name
  emptyRest
  push (.directive name arguments)

/-- The name of an anchor or an alias. -/
def anchorName : Scanner String := do
  forward
  let name ← takeWhile isNameChar
  let c ← peek
  if name.isEmpty || !(isGap c || "?:,]\x7d%@`".toList.contains c) then malformed
  return String.ofList name

/-- A tag. -/
def tag : Scanner Unit := do
  let c ← peek 1
  if c == '<' then
    forward 2
    let text ← tagText
    if (← peek) != '>' then malformed
    forward
    push (.tag none text)
  else if isGap c then
    forward
    push (.tag none "!")
  else
    let word := ((← get).rest.drop 1).takeWhile fun c => !isSpaceOrEnd c
    let handle ← if word.contains '!' then tagHandle else do
      forward
      pure "!"
    push (.tag (some handle) (← tagText))
  if !isSpaceOrEnd (← peek) then malformed

/-! ## Scalars -/

/-- What a character behind a backslash stands for. -/
def escapes : List (Char × Nat) := [
  ('0', 0), ('a', 7), ('b', 8), ('t', 9), ('\t', 9), ('n', 10), ('v', 11), ('f', 12), ('r', 13),
  ('e', 27), (' ', 32), ('"', 34), ('/', 47), ('\\', 92), ('N', 0x85), ('_', 0xA0), ('L', 0x2028),
  ('P', 0x2029)]

/-- How many hexadecimal digits follow such a character. -/
def codeLengths : List (Char × Nat) := [('x', 2), ('u', 4), ('U', 8)]

/-- The line breaks of a quoted scalar and the blanks between them; a separator of documents must not
come there. -/
def quotedBreaks : Nat → Scanner (List Char)
  | 0 => return []
  | fuel + 1 => do
    if ← atSeparator then malformed
    discard (takeWhile fun c => c == ' ' || c == '\t')
    match ← lineBreak with
    | [] => return []
    | taken => return taken ++ (← quotedBreaks fuel)

/-- A character of a scalar in double quotes that is written with a backslash. -/
def escaped (fuel : Nat) : Scanner (List Char) := do
  forward
  let c ← peek
  match escapes.lookup c, codeLengths.lookup c with
  | some code, _ =>
    forward
    return [Char.ofNat code]
  | none, some length =>
    forward
    let digits := (← get).rest.take length
    if digits.length < length || digits.any fun d => (Text.hexValue? d).isNone then malformed
    let code := digits.foldl (fun n d => n * 16 + (Text.hexValue? d).getD 0) 0
    if 0x110000 ≤ code then throw (.failed (Text.codeFault code))
    forward length
    return [Char.ofNat code]
  | none, none =>
    if isBreak c then
      discard lineBreak
      quotedBreaks fuel
    else malformed

/-- The blanks of a quoted scalar: on a line they stay, and a line break folds into one. -/
def quotedBlanks (fuel : Nat) : Scanner (List Char) := do
  let blanks ← takeWhile fun c => c == ' ' || c == '\t'
  let c ← peek
  if c == endMark then malformed
  else if isBreak c then
    let first ← lineBreak
    let breaks ← quotedBreaks fuel
    if first != ['\n'] then return first ++ breaks
    else if breaks.isEmpty then return [' ']
    else return breaks
  else return blanks

/-- The text of a quoted scalar up to its closing quote, which is taken too. -/
def quotedText (isDouble : Bool) : Nat → Scanner (List Char)
  | 0 => malformed
  | fuel + 1 => do
    let c ← peek
    if isGap c then
      let blanks ← quotedBlanks fuel
      return blanks ++ (← quotedText isDouble fuel)
    else if isDouble && c == '"' then
      forward
      return []
    else if !isDouble && c == '\'' then
      forward
      if (← peek) == '\'' then
        forward
        return c :: (← quotedText isDouble fuel)
      else return []
    else if isDouble && c == '\\' then
      let text ← escaped fuel
      return text ++ (← quotedText isDouble fuel)
    else
      forward
      return c :: (← quotedText isDouble fuel)

/-- A quoted scalar. -/
def quoted (isDouble : Bool) : Scanner Unit := do
  savePlace
  allowKey false
  forward
  let text ← quotedText isDouble (← get).fuel
  push (.scalar (String.ofList text) false)

/-- How the line breaks at the end of a block scalar are treated. -/
inductive Chomping where
  | clip | strip | keep
deriving Repr, DecidableEq, Inhabited

/-- The marks behind the start of a block scalar: the treatment of its end, and by how much it is
indented. -/
def blockHeader : Scanner (Chomping × Option Nat) := do
  let marks ← takeWhile fun c => c == '+' || c == '-' || c.isDigit
  if !isSpaceOrEnd (← peek) then malformed
  let chomping (c : Char) := if c == '+' then Chomping.keep else Chomping.strip
  let header ← match marks with
    | [] => pure (.clip, none)
    | [c] => if c.isDigit then pure (.clip, some c) else pure (chomping c, none)
    | [c, d] =>
      if c.isDigit && !d.isDigit then pure (chomping d, some c)
      else if !c.isDigit && d.isDigit then pure (chomping c, some d)
      else malformed
    | _ => malformed
  match header.2 with
  | none => return (header.1, none)
  | some digit => if digit == '0' then malformed else return (header.1, some (digit.toNat - 48))

/-- Takes blanks up to a column. -/
def indentation (column : Nat) : Scanner Unit := do
  let s ← get
  let blanks := (s.rest.takeWhile (· == ' ')).length
  forward (min blanks (column - s.column))

/-- Empty lines before the next line of a block scalar, up to its column. -/
def blockBreaks (column : Nat) : Nat → Scanner (List Char)
  | 0 => return []
  | fuel + 1 => do
    indentation column
    match ← lineBreak with
    | [] => return []
    | taken => return taken ++ (← blockBreaks column fuel)

/-- Empty lines before the first line of a block scalar, and the furthest column among them and it. -/
def leadingBreaks (column : Nat) : Nat → Scanner (List Char × Nat)
  | 0 => return ([], column)
  | fuel + 1 => do
    discard (takeWhile (· == ' '))
    let column := max column (← get).column
    match ← lineBreak with
    | [] => return ([], column)
    | taken =>
      let (breaks, column) ← leadingBreaks column fuel
      return (taken ++ breaks, column)

/-- The lines of a block scalar from its column on, behind the empty lines `breaks`. The last line break
and the empty lines after it are given apart, since the treatment of the end decides about them. -/
def blockLines (isFolded : Bool) (column : Nat) (breaks : List Char) :
    Nat → Scanner (List Char × List Char × List Char)
  | 0 => return ([], [], breaks)
  | fuel + 1 => do
    if (← get).column != column || (← peek) == endMark then return ([], [], breaks)
    let startsBlank (c : Char) := c == ' ' || c == '\t'
    let isBlank := startsBlank (← peek)
    let text ← takeWhile fun c => !endsLine c
    let last ← lineBreak
    let after ← blockBreaks column fuel
    let s ← get
    let c ← peek
    if s.column == column && c != endMark then
      let joint :=
        if isFolded && last == ['\n'] && !isBlank && !startsBlank c then
          if after.isEmpty then [' '] else []
        else last
      let (more, end_) ← blockLines isFolded column after fuel
      return (breaks ++ text ++ joint ++ more, end_)
    else return (breaks ++ text, last, after)

/-- A block scalar. -/
def block (isFolded : Bool) : Scanner Unit := do
  allowKey true
  dropPlace
  forward
  let (chomping, increment) ← blockHeader
  emptyRest
  let s ← get
  let fuel := s.fuel
  let least := (max (s.indent + 1) 1).toNat
  let (breaks, column) ← match increment with
    | some n =>
      let column := least + n - 1
      pure (← blockBreaks column fuel, column)
    | none =>
      let (breaks, furthest) ← leadingBreaks 0 fuel
      pure (breaks, max least furthest)
  let (text, last, after) ← blockLines isFolded column breaks fuel
  let tail := match chomping with
    | .strip => []
    | .clip => last
    | .keep => last ++ after
  push (.scalar (String.ofList (text ++ tail)) false)

/-- The blanks of a plain scalar: on a line they stay, and a line break folds into one. Nothing is
given at a separator of documents. -/
def plainBreaks : Nat → Scanner (Option (List Char))
  | 0 => return some []
  | fuel + 1 => do
    if ← atSeparator then return none
    discard (takeWhile (· == ' '))
    match ← lineBreak with
    | [] => return some []
    | taken => return (← plainBreaks fuel).map (taken ++ ·)

/-- What stands between the words of a plain scalar. -/
def plainBlanks (fuel : Nat) : Scanner (List Char) := do
  let blanks ← takeWhile (· == ' ')
  match ← lineBreak with
  | [] => return blanks
  | first =>
    allowKey true
    match ← plainBreaks fuel with
    | none => return []
    | some breaks =>
      if first != ['\n'] then return first ++ breaks
      else if breaks.isEmpty then return [' ']
      else return breaks

/-- The start of a text that is one word of a plain scalar. -/
def plainWord (inFlow : Bool) : List Char → List Char
  | [] => []
  | c :: rest =>
    let next := rest.headD endMark
    if isGap c || (c == ':' && (isGap next || (inFlow && ",[]\x7b\x7d".toList.contains next))) ||
        (inFlow && ",?[]\x7b\x7d".toList.contains c) then []
    else c :: plainWord inFlow rest

/-- The words of a plain scalar, behind the blanks `blanks`. -/
def plainText (column : Int) (blanks : List Char) : Nat → Scanner (List Char)
  | 0 => return []
  | fuel + 1 => do
    let s ← get
    if s.rest.head? == some '#' then return []
    let word := plainWord (s.flowLevel != 0) s.rest
    if word.isEmpty then return []
    allowKey false
    forward word.length
    let next ← plainBlanks fuel
    let after ← get
    if next.isEmpty || after.rest.head? == some '#' ||
        (after.flowLevel == 0 && (after.column : Int) < column) then
      return blanks ++ word
    else return blanks ++ word ++ (← plainText column next fuel)

/-- A plain scalar. -/
def plain : Scanner Unit := do
  savePlace
  allowKey false
  let s ← get
  let text ← plainText (s.indent + 1) [] s.fuel
  push (.scalar (String.ofList text) true)

/-! ## Structure -/

/-- A separator of documents. -/
def separator (token : Token) : Scanner Unit := do
  unwindTo (-1)
  dropPlace
  allowKey false
  forward 3
  push token

/-- An opening bracket. -/
def openFlow (token : Token) : Scanner Unit := do
  savePlace
  modify fun s => { s with flowLevel := s.flowLevel + 1 }
  allowKey true
  forward
  push token

/-- A closing bracket. -/
def closeFlow (token : Token) : Scanner Unit := do
  dropPlace
  let s ← get
  if s.flowLevel == 0 then malformed
  set { s with flowLevel := s.flowLevel - 1 }
  allowKey false
  forward
  push token

/-- A comma. -/
def flowEntry : Scanner Unit := do
  allowKey true
  dropPlace
  forward
  push .flowEntry

/-- Starts a block where an entry of this kind stands outside brackets. -/
def startBlock (token : Token) : Scanner Unit := do
  let s ← get
  if s.flowLevel == 0 then
    if !s.keyAllowed then malformed
    if ← indentTo s.column then push token

/-- The dash of an entry. -/
def blockEntry : Scanner Unit := do
  startBlock .blockSequenceStart
  allowKey true
  dropPlace
  forward
  push .blockEntry

/-- The mark of a key. -/
def key : Scanner Unit := do
  startBlock .blockMappingStart
  allowKey ((← get).flowLevel == 0)
  dropPlace
  forward
  push .key

/-- The colon of an entry, which makes a key of what stands at the place that was remembered. -/
def value : Scanner Unit := do
  let s ← get
  match s.keyPlaces.lookup s.flowLevel with
  | some place =>
    modify fun t => { t with keyPlaces := t.keyPlaces.filter fun place => place.1 != s.flowLevel }
    let started ← if s.flowLevel == 0 then indentTo place.column else pure false
    modify fun t =>
      { t with
        tokens := t.tokens.insertIdxIfInBounds place.tokens .key
        keyAllowed := false }
    if started then
      modify fun t =>
        { t with tokens := t.tokens.insertIdxIfInBounds place.tokens .blockMappingStart }
  | none =>
    startBlock .blockMappingStart
    allowKey (s.flowLevel == 0)
    dropPlace
  forward
  push .value

/-- The character starts a plain scalar, given the one behind it. -/
def startsPlain (inFlow : Bool) (c next : Char) : Bool :=
  !(isGap c || "-?:,[]\x7b\x7d#&*!|>'\"%@`".toList.contains c) ||
    (!isGap next && (c == '-' || (!inFlow && (c == '?' || c == ':'))))

/-- One token, with those that its place calls for. -/
def step : Scanner Unit := do
  skipBetween (← get).fuel
  dropStale
  unwindTo (← get).column
  let s ← get
  let c ← peek
  let next ← peek 1
  let inFlow := s.flowLevel != 0
  let separates ← atSeparator
  if c == endMark then
    unwindTo (-1)
    dropPlace
    push .streamEnd
    modify fun s => { s with isDone := true, keyPlaces := [] }
  else if c == '%' && s.column == 0 then directive
  else if separates && s.column == 0 then
    separator (if c == '-' then .documentStart else .documentEnd)
  else if c == '[' then openFlow .flowSequenceStart
  else if c == '\x7b' then openFlow .flowMappingStart
  else if c == ']' then closeFlow .flowSequenceEnd
  else if c == '\x7d' then closeFlow .flowMappingEnd
  else if c == ',' then flowEntry
  else if c == '-' && isGap next then blockEntry
  else if c == '?' && (inFlow || isGap next) then key
  else if c == ':' && (inFlow || isGap next) then value
  else if c == '*' || c == '&' then
    savePlace
    allowKey false
    let name ← anchorName
    push (if c == '*' then .alias name else .anchor name)
  else if c == '!' then
    savePlace
    allowKey false
    tag
  else if c == '|' && !inFlow then block false
  else if c == '>' && !inFlow then block true
  else if c == '\'' then quoted false
  else if c == '"' then quoted true
  else if startsPlain inFlow c next then plain
  else malformed

/-- The next token is not known yet: there is none, or it may turn out to be a key. -/
def needsMore : Scanner Bool := do
  let s ← get
  if s.isDone then return false
  if s.tokens.size ≤ s.taken then return true
  dropStale
  let s ← get
  return s.keyPlaces.any fun place => place.2.tokens == s.taken

/-- Makes tokens until the next one is known. -/
def settle : Nat → Scanner Unit
  | 0 => malformed
  | fuel + 1 => do
    if ← needsMore then
      step
      settle fuel

/-- The next token, which stays. -/
def nextToken : Scanner Token := do
  settle (← get).fuel
  let s ← get
  return (s.tokens[s.taken]?).getD .streamEnd

/-- Takes a token. -/
def take : Scanner Unit := modify fun s => { s with taken := s.taken + 1 }

end Scanner

/-- Characters that may stand in a text. -/
def isPrintable (c : Char) : Bool :=
  let n := c.toNat
  n == 9 || n == 10 || n == 13 || (0x20 ≤ n && n ≤ 0x7E) || n == 0x85 || (0xA0 ≤ n && n ≤ 0xD7FF) ||
    (0xE000 ≤ n && n ≤ 0xFFFD) || 0x10000 ≤ n

/-- The start of a text; `none` if some character of it may not stand there. -/
def ScanState.ofText? (text : String) : Option ScanState :=
  let cs := text.toList
  if cs.all isPrintable then some { rest := cs, size := cs.length } else none

end TextShell.Yaml
