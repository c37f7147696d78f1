import TextShell.Text.Blank
import TextShell.Text.Letter
import TextShell.Text.Split

/-!
# Reading a source

A cursor is the source that is left together with the place it is at. A parser moves a cursor or
refuses; alternatives are tried in order from the same cursor, and the first that accepts is final.
The terminals of the grammar are given here: each takes as much as it can.
-/

namespace TextShell

/-- The rest of a source and where it starts: line and column count from one. -/
structure Cursor where
  rest : List Char
  offset : Nat := 0
  line : Nat := 1
  col : Nat := 1
deriving Repr, DecidableEq, Inhabited

/-- A parser accepts some of the source or refuses. -/
abbrev Parser (α : Type) := StateT Cursor Option α

namespace Cursor

/-- The cursor behind one character. -/
def step (at_ : Cursor) (c : Char) (rest : List Char) : Cursor :=
  if c = '\n' then ⟨rest, at_.offset + 1, at_.line + 1, 1⟩
  else ⟨rest, at_.offset + 1, at_.line, at_.col + 1⟩

/-- Moves over `n` characters, or to the end. -/
def skip (at_ : Cursor) : Nat → Cursor
  | 0 => at_
  | n + 1 =>
    match at_.rest with
    | [] => at_
    | c :: rest => (at_.step c rest).skip n

end Cursor

/-- A character of words: a letter, a numeral or `_`. -/
def isWordOrUnderscore (c : Char) : Bool :=
  c == '_' || Text.isWordChar c

/-- No word goes on here. -/
def atWordEnd : List Char → Bool
  | [] => true
  | c :: _ => !isWordOrUnderscore c

/-- The source starts with one of the words, as a whole word. -/
def startsWithWord (words : List String) (s : List Char) : Bool :=
  words.any fun word =>
    match Text.dropStart? word.toList s with
    | some rest => atWordEnd rest
    | none => false

/-- The first character of a name. -/
def isNameStart (c : Char) : Bool := c.isAlpha || c == '_'

/-- A later character of a name. -/
def isNameChar (c : Char) : Bool := c.isAlphanum || c == '_'

/-- The length of the name that the source starts with. -/
def nameLength? : List Char → Option Nat
  | c :: rest => if isNameStart c then some (1 + (rest.takeWhile isNameChar).length) else none
  | [] => none

/-- The length of the blanks and comments at the start, and of the characters in `extra`. -/
def gapLength (extra : Char → Bool) (inComment : Bool) : List Char → Nat
  | [] => 0
  | c :: rest =>
    if inComment then
      if c = '\n' then 1 + gapLength extra false rest else 1 + gapLength extra true rest
    else if Text.isGap c || extra c then 1 + gapLength extra false rest
    else if c = '#' then 1 + gapLength extra true rest
    else 0

/-- The length of one end of a statement: blanks, a comment, then a line end or `;`. Where a comment
runs to the end of the source, its last `;` ends the statement. -/
def separatorLength? (s : List Char) : Option Nat :=
  let blanks := (s.takeWhile fun c => c == ' ' || c == '\t').length
  let rest := s.drop blanks
  match rest with
  | '\n' :: _ | ';' :: _ => some (blanks + 1)
  | '#' :: _ =>
    let comment := rest.takeWhile (· != '\n')
    if comment.length < rest.length then some (blanks + comment.length + 1)
    else
      let beforeLast := comment.reverse.dropWhile (· != ';')
      if beforeLast.isEmpty then none else some (blanks + beforeLast.length)
  | _ => none

/-- The length of a string between two `mark`s, in which a backslash takes the next character along.
The opening mark is already behind. -/
def quotedLength? (mark : Char) : List Char → Option Nat
  | [] => none
  | '\\' :: [] => none
  | '\\' :: _ :: rest => (quotedLength? mark rest).map (· + 2)
  | c :: rest => if c = mark then some 1 else (quotedLength? mark rest).map (· + 1)

/-- The characters that end a bare string. -/
def isBareEnd (c : Char) : Bool :=
  Text.isGap c || ";,\x7b\x7d()\"'=[]`&\\".toList.contains c

/-- The length of the bare string that the source starts with; a backslash takes the next character
along, unless that is a blank. -/
def bareLength : List Char → Nat
  | [] => 0
  | '\\' :: [] => 0
  | '\\' :: c :: rest => if Text.isGap c then 0 else bareLength rest + 2
  | c :: rest => if isBareEnd c then 0 else bareLength rest + 1

namespace Parser

/-- Takes as many characters as `length?` says, and refuses where it does. -/
def take (length? : List Char → Option Nat) : Parser Unit := fun at_ =>
  match length? at_.rest with
  | some n => some ((), at_.skip n)
  | none => none

/-- The character `c`. -/
def char (c : Char) : Parser Unit :=
  take fun s => if s.head? = some c then some 1 else none

/-- The word `word`, as a whole word. -/
def keyword (word : String) : Parser Unit :=
  take fun s => if startsWithWord [word] s then some word.length else none

/-- Blanks within a line, at least one. -/
def space : Parser Unit :=
  take fun s =>
    let n := (s.takeWhile fun c => c == ' ' || c == '\t').length
    if n = 0 then none else some n

/-- Blanks within a line. -/
def space? : Parser Unit :=
  take fun s => some (s.takeWhile fun c => c == ' ' || c == '\t').length

/-- Blanks, line ends and comments. -/
def blank : Parser Unit :=
  take fun s => some (gapLength (fun _ => false) false s)

/-- Blanks, line ends, comments and `;`. -/
def gap : Parser Unit :=
  take fun s => some (gapLength (· == ';') false s)

/-- The end of a statement, and all blank lines and comments behind it. -/
def separator : Parser Unit := do
  take separatorLength?
  gap

/-- Zero or more of `p`, at most `fuel`. -/
def many {α : Type} (p : Parser α) : Nat → Parser (List α)
  | 0 => pure []
  | fuel + 1 => (do
      let a ← p
      return a :: (← many p fuel)) <|> pure []

/-- `p`, and then zero or more of `p` behind `sep`. Each takes a character, so that the length of the
source bounds their number. -/
def sepBy {α : Type} (p : Parser α) (sep : Parser Unit) : Parser (List α) := do
  let first ← p
  let fuel := (← get).rest.length
  return first :: (← many (do sep; p) fuel)

end Parser

end TextShell
