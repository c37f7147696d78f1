import TextShell.Decimal.Reader
import TextShell.Fault
import TextShell.Pattern.Basic
import TextShell.Text.CharName
import TextShell.Text.Hex
import TextShell.Text.Identifier

/-!
# Reading patterns

The written form of a pattern. A backslash and the character behind it are one token. Groups are
numbered by their opening brackets, and a reference is to a group that is already closed; options
that hold for the whole pattern stand at its very start; what is looked for behind a position has a
fixed width.

Groups that neither have a number nor set options dissolve into what is around them. What all
alternatives start with is taken out in front of them, and alternatives of one character each are
a set.

Almost everything that can be wrong makes the pattern malformed, and the caller needs no more than
that. Two mistakes are faults instead: a count of repetitions that is out of range, and options for the
whole pattern that exclude each other.
-/

namespace TextShell

/-- A character of a pattern, or one behind a backslash. -/
inductive PatternToken where
  | plain (c : Char)
  | escaped (c : Char)
deriving Repr, DecidableEq, Inhabited

/-- The tokens of a pattern; a backslash at its end is none. -/
def PatternToken.ofText? : List Char → Option (List PatternToken)
  | [] => some []
  | ['\\'] => none
  | '\\' :: c :: rest => (ofText? rest).map (.escaped c :: ·)
  | c :: rest => (ofText? rest).map (.plain c :: ·)

/-- The text of tokens. -/
def PatternToken.text (tokens : List PatternToken) : List Char :=
  tokens.flatMap fun
    | .plain c => [c]
    | .escaped c => ['\\', c]

/-- What is known while a pattern is read. -/
structure PatternState where
  rest : List PatternToken
  /-- The options of the whole pattern. -/
  flags : PatternFlags := {}
  /-- The whole pattern is said to be about all characters. -/
  unicode : Bool := false
  /-- The pattern is said to be without repetitions. -/
  plain : Bool := false
  /-- The number of the next group. -/
  nextGroup : Nat := 1
  /-- The widths of the groups that are closed. -/
  widths : List (Nat × Pattern.Width) := []
  names : List (String × Nat) := []
  /-- The number of the first group inside the outermost look behind. -/
  behind : Option Nat := none
  /-- Groups that conditions ask for. -/
  conditions : List Nat := []

/-- Reads some of a pattern. -/
abbrev PatternParser := StateT PatternState (Except ReadError)

namespace PatternParser

/-- Refuses the pattern. -/
def malformed {α : Type} : PatternParser α := throw .malformed

/-- The next token, which stays. -/
def peek : PatternParser (Option PatternToken) := return (← get).rest.head?

/-- Takes the next token. -/
def next : PatternParser (Option PatternToken) := do
  let s ← get
  match s.rest with
  | [] => return none
  | token :: rest =>
    set { s with rest := rest }
    return some token

/-- Takes the next token, which has to be there. -/
def demand : PatternParser PatternToken := do
  match ← next with
  | some token => return token
  | none => malformed

/-- Takes the next token if it is this character. -/
def eat (c : Char) : PatternParser Bool := do
  if (← peek) == some (.plain c) then
    discard next
    return true
  else return false

/-- Takes at most `count` tokens that are characters of a class. -/
def takeWhile (holds : Char → Bool) : Nat → PatternParser (List Char)
  | 0 => return []
  | count + 1 => do
    match ← peek with
    | some (.plain c) =>
      if holds c then
        discard next
        return c :: (← takeWhile holds count)
      else return []
    | _ => return []

/-- The number that digits write in a base. -/
def valueIn (base : Nat) (digits : List Char) : Nat :=
  digits.foldl (fun n c => n * base + (Text.hexValue? c).getD 0) 0

/-- A digit of base eight. -/
def isOctal (c : Char) : Bool := '0' ≤ c && c ≤ '7'

/-- As many hexadecimal digits as stated, and what they write. -/
def hexDigits (count : Nat) : PatternParser Nat := do
  let digits ← takeWhile (fun c => (Text.hexValue? c).isSome) count
  if digits.length = count then return valueIn 16 digits else malformed

/-- The tokens before the closing character of a name, which is taken too; there is at least one. -/
def nameUntil (closing : Char) : PatternParser String := do
  let s ← get
  let name := s.rest.takeWhile (· != .plain closing)
  match s.rest.dropWhile (· != .plain closing) with
  | [] => malformed
  | _ :: rest =>
    if name.isEmpty then malformed
    else
      set { s with rest := rest }
      return String.ofList (PatternToken.text name)

/-- A control character that a letter behind a backslash stands for. -/
def controlCode? (c : Char) : Option Nat :=
  [('a', 7), ('f', 12), ('n', 10), ('r', 13), ('t', 9), ('v', 11), ('\\', 92)].lookup c

/-- The class that a letter behind a backslash stands for; a capital one negates it. -/
def charClass? (c : Char) : Option SetItem :=
  match c with
  | 'd' => some (.charClass .digit false)
  | 'D' => some (.charClass .digit true)
  | 's' => some (.charClass .space false)
  | 'S' => some (.charClass .space true)
  | 'w' => some (.charClass .word false)
  | 'W' => some (.charClass .word true)
  | _ => none

/-- The condition that a letter behind a backslash stands for. -/
def anchor? (ascii : Bool) (c : Char) : Option Anchor :=
  match c with
  | 'A' => some .textStart
  | 'Z' => some .textEnd
  | 'b' => some (.wordBoundary false ascii)
  | 'B' => some (.wordBoundary true ascii)
  | _ => none

/-- A code point that an escape gives by its number, or the character itself. A letter without a
meaning is a mistake. -/
def plainEscape (c : Char) : PatternParser Nat := do
  match c with
  | 'x' => hexDigits 2
  | 'u' => hexDigits 4
  | 'U' =>
    let code ← hexDigits 8
    if code < 0x110000 then return code
    else if code < 0x80000000 then malformed
    else throw (.failed (Text.codeFault code))
  | 'N' =>
    if !(← eat '\x7b') then malformed
    match CharName.codeOf? (← nameUntil '\x7d') with
    | some code => return code
    | none => malformed
  | _ => if c.isAlphanum then malformed else return c.toNat

/-- The group may be referred to here. -/
def checkReference (index : Nat) : PatternParser Unit := do
  let s ← get
  if (s.widths.lookup index).isNone then malformed
  else if s.behind.any (· ≤ index) then malformed
  else return ()

/-- A reference to a group. -/
def reference (flags : PatternFlags) (index : Nat) : PatternParser Pattern := do
  checkReference index
  return .backReference index flags

/-- A digit behind a backslash: a code point in base eight, or a reference. -/
def numericEscape (flags : PatternFlags) (c : Char) : PatternParser Pattern := do
  if c = '0' then
    let digits ← takeWhile isOctal 2
    return .char (valueIn 8 digits) false flags
  else
    let second ← takeWhile Char.isDigit 1
    let third ← if isOctal c && second.any isOctal then takeWhile isOctal 1 else pure []
    if third.isEmpty then reference flags (valueIn 10 (c :: second))
    else
      let code := valueIn 8 (c :: second ++ third)
      if code ≤ 0xFF then return .char code false flags else malformed

/-- A character behind a backslash, outside a set. -/
def escape (flags : PatternFlags) (c : Char) : PatternParser Pattern := do
  match charClass? c, anchor? flags.ascii c, controlCode? c with
  | some item, _, _ => return .oneOf false [item] flags
  | _, some a, _ => return .anchor a
  | _, _, some code => return .char code false flags
  | _, _, _ =>
    if c.isDigit then numericEscape flags c else return .char (← plainEscape c) false flags

/-- A character behind a backslash, inside a set. -/
def setEscape (c : Char) : PatternParser SetItem := do
  match charClass? c, if c = 'b' then some 8 else controlCode? c with
  | some item, _ => return item
  | _, some code => return .char code
  | _, _ =>
    let code ←
      if isOctal c then do
        let digits ← takeWhile isOctal 2
        let code := valueIn 8 (c :: digits)
        if code ≤ 0xFF then pure code else malformed
      else plainEscape c
    return .char code

/-- One end of a range, or a member of a set by itself. -/
def setMember : PatternToken → PatternParser SetItem
  | .plain c => return .char c.toNat
  | .escaped c => setEscape c

/-- The members of a set up to its closing bracket, behind those in `acc`, which are in reverse. -/
def setItems (acc : List SetItem) : Nat → PatternParser (List SetItem)
  | 0 => malformed
  | fuel + 1 => do
    let token ← demand
    if token == .plain ']' && !acc.isEmpty then return acc.reverse
    let low ← setMember token
    if ← eat '-' then
      let token ← demand
      if token == .plain ']' then return (.char 45 :: low :: acc).reverse
      match low, ← setMember token with
      | .char a, .char b => if a ≤ b then setItems (.range a b :: acc) fuel else malformed
      | _, _ => malformed
    else setItems (low :: acc) fuel

/-- A set behind its opening bracket. -/
def charSet (flags : PatternFlags) : PatternParser Pattern := do
  let negated ← eat '^'
  let items ← setItems [] ((← get).rest.length + 1)
  match items.eraseDups with
  | [.char code] => return .char code negated flags
  | items => return .oneOf negated items flags

/-- Counts of repetitions are below this number. -/
def repeatLimit : Nat := 4294967295

/-- A bound on repetitions, if there are digits for one. -/
def repeatBound (digits : List Char) : PatternParser (Option Nat) := do
  if digits.isEmpty then return none
  else if Decimal.digitLimit < digits.length then
    throw (.failed (.numeralTooLong digits.length))
  else if repeatLimit ≤ valueIn 10 digits then
    throw (.failed (.reported "OverflowError" "the repetition number is too large"))
  else return some (valueIn 10 digits)

/-- The bounds in braces; where there are none, the brace is a character and nothing is taken. -/
def bracedBounds : PatternParser (Option (Nat × Option Nat)) := do
  let s ← get
  if (← peek) == some (.plain '}') then return none
  let low ← takeWhile Char.isDigit s.rest.length
  let high ← if ← eat ',' then takeWhile Char.isDigit s.rest.length else pure low
  if ← eat '}' then
    let low := (← repeatBound low).getD 0
    let high ← repeatBound high
    if high.any (· < low) then malformed else return some (low, high)
  else
    set s
    return none

/-- The bounds that a character asks for; `none` if it is an opening brace that is a character. -/
def bounds (c : Char) : PatternParser (Option (Nat × Option Nat)) :=
  match c with
  | '?' => return some (0, some 1)
  | '*' => return some (0, none)
  | '+' => return some (1, none)
  | _ => bracedBounds

/-- What one alternative is put together from. -/
inductive Part where
  | piece (p : Pattern)
  /-- A group without a number and without options of its own. -/
  | bare (body : List Pattern)
deriving Repr, Inhabited

/-- The pieces of a part. -/
def Part.pieces : Part → List Pattern
  | .piece p => [p]
  | .bare body => body

/-- The pieces of parts. -/
def Part.joined (parts : List Part) : List Pattern := parts.flatMap Part.pieces

/-- The part can be repeated: it is no condition on a position, and no repetition itself. -/
def Part.isRepeatable : Part → Bool
  | .piece (.anchor _) | .piece (.repetition ..) => false
  | _ => true

/-- The mark behind the bounds of a repetition. -/
def repeatMode : PatternParser RepeatMode := do
  if ← eat '?' then return .lazy
  if ← eat '+' then return .possessive
  return .greedy

/-- The parts with the last one, which comes first, repeated. -/
def repeatLast (low : Nat) (high : Option Nat) : List Part → PatternParser (List Part)
  | [] => malformed
  | part :: rest => do
    if !part.isRepeatable then malformed
    return .piece (.repetition low high (← repeatMode) part.pieces) :: rest

/-! ## Alternatives -/

/-- What all alternatives start with, and what is left of them. -/
def commonStart : Nat → List (List Pattern) → List Pattern × List (List Pattern)
  | fuel + 1, (p :: first) :: rest =>
    if rest.all fun q => q.head?.any p.sameLeaf then
      let (shared, left) := commonStart fuel (first :: rest.map List.tail)
      (p :: shared, left)
    else ([], (p :: first) :: rest)
  | _, alternatives => ([], alternatives)

/-- The members of a set that does what an alternative does. -/
def setOf? : List Pattern → Option (List SetItem)
  | [.char code false _] => some [.char code]
  | [.oneOf false items _] => some items
  | _ => none

/-- One of several alternatives. -/
def oneOfAll (flags : PatternFlags) (alternatives : List (List Pattern)) : List Pattern :=
  match alternatives with
  | [p] => p
  | _ =>
    let (shared, left) := commonStart (alternatives.headD []).length alternatives
    match left.mapM setOf? with
    | some sets => shared ++ [.oneOf false sets.flatten.eraseDups flags]
    | none => shared ++ [.choice left]

/-- Letters for options. -/
def isFlag (c : Char) : Bool := "iLmsxatu".toList.contains c

/-- What a group of options says. -/
inductive FlagGroup where
  /-- These hold for the whole pattern. -/
  | whole (on : List Char)
  /-- These hold, or do not hold, inside the group. -/
  | inner (on off : List Char)
deriving Repr, DecidableEq, Inhabited

/-- Letters for options, up to one of the characters that may end them. -/
def flagRun (stops : List Char) : Nat → PatternParser (List Char × Char)
  | 0 => malformed
  | fuel + 1 => do
    match ← demand with
    | .plain c =>
      if stops.contains c then return ([], c)
      else if isFlag c then
        let (letters, stop) ← flagRun stops fuel
        return (c :: letters, stop)
      else malformed
    | .escaped _ => malformed

/-- A group of options, behind its first character. -/
def flagGroup (c : Char) : PatternParser FlagGroup := do
  let fuel := (← get).rest.length + 1
  let (on, stop) ←
    if c = '-' then pure ([], c)
    else do
      let (letters, stop) ← flagRun [')', '-', ':'] fuel
      pure (c :: letters, stop)
  if on.contains 'L' || (on.contains 'a' && on.contains 'u') then malformed
  if stop = ')' then return .whole on
  let (off, _) ← if stop = '-' then flagRun [':'] fuel else pure ([], ':')
  if stop = '-' && off.isEmpty then malformed
  if on.contains 't' || off.any "auLt".toList.contains || on.any off.contains then malformed
  return .inner on off

/-- Sets options of the whole pattern. -/
def setWhole (on : List Char) : PatternParser PatternFlags := do
  let s ← get
  let flags := (on.filter (· != 'u')).foldl (·.turn true ·) s.flags
  set { s with
    flags := flags
    unicode := s.unicode || on.contains 'u'
    plain := s.plain || on.contains 't' }
  return flags

/-- Opens a group, which takes the next number. -/
def openGroup (name : Option String) : PatternParser Nat := do
  let s ← get
  let names ← match name with
    | none => pure s.names
    | some name => if (s.names.lookup name).isSome then malformed else pure ((name, s.nextGroup) :: s.names)
  set { s with names := names, nextGroup := s.nextGroup + 1 }
  return s.nextGroup

/-- Closes a group, which can be referred to from now on. -/
def closeGroup (index : Nat) (body : List Pattern) : PatternParser Unit :=
  modify fun s => { s with widths := (index, Pattern.widthOf s.widths body) :: s.widths }

/-- The number of the group that a condition asks for. -/
def condition (name : String) : PatternParser Nat := do
  let s ← get
  let index ←
    if Text.isIdentifier name then
      match s.names.lookup name with
      | some index => pure index
      | none => malformed
    else match Decimal.readInteger name with
      | .integer n => if 0 < n then pure n.toNat else malformed
      | _ => malformed
  if s.behind.isSome then checkReference index
  set { s with conditions := index :: s.conditions }
  return index

/-- Takes a comment, up to its closing bracket. -/
def comment : PatternParser Unit := do
  let s ← get
  match s.rest.dropWhile (· != .plain ')') with
  | [] => malformed
  | _ :: rest => set { s with rest := rest }

/-- Takes the rest of a line. -/
def lineComment : PatternParser Unit :=
  modify fun s => { s with rest := (s.rest.dropWhile (· != .plain '\n')).tail }

/-- Takes the bracket that closes a group. -/
def closing : PatternParser Unit := do
  if !(← eat ')') then malformed

/-- What an opening bracket starts. -/
inductive GroupResult where
  | part (p : Part)
  /-- Nothing that matches. -/
  | nothing
  /-- Options for what follows. -/
  | flags (flags : PatternFlags)
deriving Repr, Inhabited

mutual

/-- Alternatives, behind those in `before`, which are in reverse. Those of the whole pattern follow its
options, and only the first of them may set some. -/
def choices (top : Bool) (flags : PatternFlags) (before : List (List Pattern)) :
    Nat → PatternParser (List Pattern)
  | 0 => malformed
  | fuel + 1 => do
    let p ← items (top && before.isEmpty) flags [] fuel
    let whole := (← get).flags
    let flags := if top then whole else flags
    if ← eat '|' then choices top flags (p :: before) fuel
    else return oneOfAll flags (p :: before).reverse

/-- The pieces of one alternative, behind the parts in `acc`, which are in reverse. -/
def items (first : Bool) (flags : PatternFlags) (acc : List Part) :
    Nat → PatternParser (List Pattern)
  | 0 => malformed
  | fuel + 1 => do
    match ← peek with
    | none | some (.plain '|') | some (.plain ')') => return Part.joined acc.reverse
    | some (.escaped c) =>
      discard next
      let p ← escape flags c
      items first flags (.piece p :: acc) fuel
    | some (.plain c) =>
      discard next
      if flags.verbose && " \t\n\r\x0b\x0c".toList.contains c then items first flags acc fuel
      else if flags.verbose && c = '#' then
        lineComment
        items first flags acc fuel
      else if c = '[' then
        let p ← charSet flags
        items first flags (.piece p :: acc) fuel
      else if c = '.' then items first flags (.piece (.any flags) :: acc) fuel
      else if c = '^' then
        items first flags (.piece (.anchor (.lineStart flags.multiline)) :: acc) fuel
      else if c = '$' then
        items first flags (.piece (.anchor (.lineEnd flags.multiline)) :: acc) fuel
      else if c = '(' then
        match ← bracket (first && acc.isEmpty) flags fuel with
        | .part p => items first flags (p :: acc) fuel
        | .nothing => items first flags acc fuel
        | .flags flags => items first flags acc fuel
      else if c = '?' || c = '*' || c = '+' || c = '\x7b' then
        match ← bounds c with
        | none => items first flags (.piece (.char c.toNat false flags) :: acc) fuel
        | some (low, high) =>
          let acc ← repeatLast low high acc
          items first flags acc fuel
      else items first flags (.piece (.char c.toNat false flags) :: acc) fuel

/-- A pattern and the bracket behind it. -/
def inBrackets (flags : PatternFlags) : Nat → PatternParser (List Pattern)
  | 0 => malformed
  | fuel + 1 => do
    let p ← choices false flags [] fuel
    closing
    return p

/-- A group with a number, behind its opening. -/
def numbered (name : Option String) (flags : PatternFlags) : Nat → PatternParser GroupResult
  | 0 => malformed
  | fuel + 1 => do
    let index ← openGroup name
    let body ← inBrackets flags fuel
    closeGroup index body
    return .part (.piece (.group (some index) body))

/-- What stands behind an opening bracket. Options for the whole pattern are allowed at its `start`. -/
def bracket (start : Bool) (flags : PatternFlags) : Nat → PatternParser GroupResult
  | 0 => malformed
  | fuel + 1 => do
    if !(← eat '?') then return (← numbered none flags fuel)
    match ← demand with
    | .plain 'P' =>
      if ← eat '<' then
        let name ← nameUntil '>'
        if !Text.isIdentifier name then malformed
        numbered (some name) flags fuel
      else if ← eat '=' then
        let name ← nameUntil ')'
        match (← get).names.lookup name with
        | some index => return .part (.piece (← reference flags index))
        | none => malformed
      else malformed
    | .plain ':' => return .part (.bare (← inBrackets flags fuel))
    | .plain '>' => return .part (.piece (.atomic (← inBrackets flags fuel)))
    | .plain '#' =>
      comment
      return .nothing
    | .plain '=' => return .part (.piece (.look false false (← inBrackets flags fuel)))
    | .plain '!' => return .part (.piece (.look false true (← inBrackets flags fuel)))
    | .plain '<' =>
      let token ← demand
      if token != .plain '=' && token != .plain '!' then malformed
      let outer := (← get).behind
      modify fun s => { s with behind := some (outer.getD s.nextGroup) }
      let body ← choices false flags [] fuel
      modify fun s => { s with behind := outer }
      closing
      return .part (.piece (.look true (token == .plain '!') body))
    | .plain '(' =>
      let name ← nameUntil ')'
      let index ← condition name
      let yes ← items false flags [] fuel
      let no ← if ← eat '|' then items false flags [] fuel else pure []
      closing
      return .part (.piece (.conditional index yes no))
    | .plain c =>
      if isFlag c || c = '-' then
        match ← flagGroup c with
        | .whole on =>
          if !start then malformed
          return .flags (← setWhole on)
        | .inner on off =>
          let inner := off.foldl (·.turn false ·) (on.foldl (·.turn true ·) flags)
          return .part (.piece (.group none (← inBrackets inner fuel)))
      else malformed
    | .escaped _ => malformed

end

/-! ## The whole -/

/-- Widths of what is looked for behind a position are below this number. -/
def behindLimit : Nat := 4294967296

mutual

/-- What is looked for behind positions has a fixed width, and nothing is repeated in a pattern that is
said to be without repetitions. -/
def isSound (plain : Bool) (widths : List (Nat × Pattern.Width)) : Pattern → Bool
  | .choice alternatives => isSoundChoice plain widths alternatives
  | .repetition _ _ _ body => !plain && isSoundList plain widths body
  | .group _ body | .atomic body => isSoundList plain widths body
  | .look behind _ body =>
    let width := Pattern.widthOf widths body
    (!behind || (width.low == width.high && width.low < behindLimit)) &&
      isSoundList plain widths body
  | .conditional _ yes no => isSoundList plain widths yes && isSoundList plain widths no
  | _ => true

/-- Every piece is sound. -/
def isSoundList (plain : Bool) (widths : List (Nat × Pattern.Width)) : List Pattern → Bool
  | [] => true
  | p :: rest => isSound plain widths p && isSoundList plain widths rest

/-- Every alternative is sound. -/
def isSoundChoice (plain : Bool) (widths : List (Nat × Pattern.Width)) :
    List (List Pattern) → Bool
  | [] => true
  | p :: rest => isSoundList plain widths p && isSoundChoice plain widths rest

end

end PatternParser

/-- A pattern that was read. -/
structure ParsedPattern where
  pieces : List Pattern
  /-- The options of the whole pattern. -/
  flags : PatternFlags
  /-- The number of groups that remember what they match. -/
  groups : Nat
  /-- Their widths. -/
  widths : List (Nat × Pattern.Width)
deriving Inhabited

/-- A whole pattern. -/
def PatternParser.whole : PatternParser ParsedPattern := do
  let tokens := (← get).rest
  let pieces ← choices true {} [] (5 * tokens.length + 5)
  let s ← get
  if s.flags.ascii && s.unicode then
    throw (.failed (.reported "ValueError" "ASCII and UNICODE flags are incompatible"))
  if !s.rest.isEmpty || s.conditions.any (s.nextGroup ≤ ·) then malformed
  if !isSoundList s.plain s.widths pieces then malformed
  return ⟨pieces, s.flags, s.nextGroup - 1, s.widths⟩

/-- Reads a pattern. -/
def Pattern.parse (text : String) : Except ReadError ParsedPattern :=
  match PatternToken.ofText? text.toList with
  | none => .error .malformed
  | some tokens => (PatternParser.whole.run { rest := tokens }).map Prod.fst

end TextShell
