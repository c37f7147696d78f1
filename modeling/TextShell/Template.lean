import TextShell.Text.Letter

/-!
# String templates

A string literal is taken apart once: its text with the escapes resolved, and regions that say which
stretches of that text stand for themselves and which name a variable. The `$` that opens a variable
is not part of the text.

`Template.scan` works character by character with a state of four parts: the regions that are
closed, the kind of the open one, where it starts, and the text so far with its length. All regions it closes are
pieces of the text in order, without gaps.
-/

namespace TextShell

/-- What a stretch of a template stands for. -/
inductive RegionKind where
  | literal
  | variable
deriving Repr, DecidableEq, Inhabited

/-- A stretch `[start, stop)` of the text of a template. Bounds beyond the text are clipped and
negative ones count from its end. -/
structure Region where
  kind : RegionKind
  start : Int
  stop : Int
deriving Repr, DecidableEq, Inhabited

/-- A text cut into regions. -/
structure Template where
  text : String := ""
  regions : List Region := []
deriving Repr, DecidableEq, Inhabited

/-- A bound as an index into a text of length `n`. -/
def clipBound (n : Nat) (i : Int) : Nat :=
  if i < 0 then (i + n).toNat else min i.toNat n

/-- The stretch of `text` between two bounds. -/
def slice (text : Array Char) (start stop : Int) : List Char :=
  (text.extract (clipBound text.size start) (clipBound text.size stop)).toList

/-- The characters of identifiers: letters, numerals, `_` and `%`. -/
def isIdentifierChar (c : Char) : Bool :=
  c == '%' || c == '_' || Text.isWordChar c

/-- Takes one pair of quotes off a literal; what starts with a quote ends with one. -/
def stripQuotes (raw : List Char) : List Char :=
  match raw with
  | c :: rest => if c = '\'' || c = '"' then rest.dropLast else raw
  | [] => []

/-- The character that a backslash and `c` stand for. -/
def unescape (c : Char) : Char :=
  if c = 'n' then '\n' else if c = 'r' then '\r' else if c = 't' then '\t' else c

namespace Template

/-- A scan in progress. -/
structure Scan where
  /-- The text so far, read backwards. -/
  text : List Char := []
  /-- The number of its characters. -/
  size : Nat := 0
  /-- The closed regions, last first. -/
  regions : List Region := []
  /-- The kind of the open region and where it starts. -/
  current : Option (RegionKind × Nat) := none

/-- Closes the open region, unless it is empty. -/
def Scan.close (s : Scan) : List Region :=
  match s.current with
  | some (kind, start) =>
    if start < s.size then ⟨kind, start, s.size⟩ :: s.regions else s.regions
  | none => s.regions

/-- Opens a variable at the end of the text. -/
def Scan.openVariable (s : Scan) : Scan :=
  { s with regions := s.close, current := some (.variable, s.size) }

/-- Adds a character to the text. It continues the open region, unless it ends a variable. -/
def Scan.push (s : Scan) (c : Char) : Scan :=
  let longer := { s with text := c :: s.text, size := s.size + 1 }
  match s.current with
  | none => { longer with current := some (.literal, s.size) }
  | some (.literal, _) => longer
  | some (.variable, start) =>
    if isIdentifierChar c then longer
    else
      { longer with
        regions := ⟨.variable, start, s.size⟩ :: s.regions
        current := some (.literal, s.size) }

/-- Scans the body of a literal. A backslash at its end is dropped. -/
def scan (expand : Bool) (s : Scan) : List Char → Scan
  | [] => s
  | '\\' :: [] => s
  | '\\' :: c :: rest => scan expand (s.push (unescape c)) rest
  | '$' :: next :: rest =>
    if expand && isIdentifierChar next then scan expand s.openVariable (next :: rest)
    else scan expand (s.push '$') (next :: rest)
  | c :: rest => scan expand (s.push c) rest

/-- The template of a literal with or without its quotes. Variables are recognised only if `expand`
is set. -/
def parse (raw : String) (expand : Bool := true) : Template :=
  let s := scan expand {} (stripQuotes raw.toList)
  ⟨String.ofList s.text.reverse, s.close.reverse⟩

/-- A text of which no stretch is used. -/
def raw (text : String) : Template := ⟨text, []⟩

/-- The regions with their texts. -/
def pieces (t : Template) : List (RegionKind × String) :=
  let text := t.text.toList.toArray
  t.regions.map fun r => (r.kind, String.ofList (slice text r.start r.stop))

/-- The names of the variables, in order. -/
def variableNames (t : Template) : List String :=
  t.pieces.filterMap fun piece => if piece.1 = .variable then some piece.2 else none

/-- A character of a literal piece, as it is written between double quotes. -/
def escapeChar (c : Char) : List Char :=
  if c = '\\' || c = '"' || c = '$' then ['\\', c]
  else if c = '\n' then ['\\', 'n']
  else if c = '\r' then ['\\', 'r']
  else if c = '\t' then ['\\', 't']
  else [c]

/-- The template as a literal in double quotes. -/
def print (t : Template) : String :=
  let body := t.pieces.map fun piece =>
    match piece.1 with
    | .literal => String.ofList (piece.2.toList.flatMap escapeChar)
    | .variable => "$" ++ piece.2
  "\"" ++ String.join body ++ "\""

end Template

end TextShell
