import TextShell.Decimal.Reader
import TextShell.Document.Basic
import TextShell.Text.Hex

/-!
# Reading JSON

The strict format with one liberty: `NaN`, `Infinity` and `-Infinity` are numbers. Control characters
are not allowed in texts. Of two members with the same key the later one counts, in the place of the
first. An integer that is too long is refused like anything that is not JSON.

The rules refer to one another only through `value`, behind a bracket or a brace, so the length of the
text bounds the depth.
-/

namespace TextShell.Json

/-- A reader takes some of the text or refuses. -/
abbrev Reader (α : Type) := List Char → Option (α × List Char)

/-- Blanks between tokens. -/
def isSpace (c : Char) : Bool := c == ' ' || c == '\t' || c == '\n' || c == '\r'

/-- The text behind the blanks at its start. -/
def skipSpace (s : List Char) : List Char := s.dropWhile isSpace

/-- Four hexadecimal digits. -/
def hex4 : Reader Nat
  | a :: b :: c :: d :: rest => do
    let a ← Text.hexValue? a
    let b ← Text.hexValue? b
    let c ← Text.hexValue? c
    let d ← Text.hexValue? d
    return (((a * 16 + b) * 16 + c) * 16 + d, rest)
  | _ => none

/-- The first half of a pair that stands for one character. -/
def isHighSurrogate (n : Nat) : Bool := 0xD800 ≤ n && n < 0xDC00

/-- The second half of such a pair. -/
def isLowSurrogate (n : Nat) : Bool := 0xDC00 ≤ n && n < 0xE000

/-- The character behind `\u`, which may be given as a pair. -/
def unicodeEscape : Reader Char := fun s => do
  let (first, rest) ← hex4 s
  if isHighSurrogate first then
    match rest with
    | '\\' :: 'u' :: more =>
      match hex4 more with
      | some (second, after) =>
        if isLowSurrogate second then
          return (Char.ofNat (0x10000 + (first - 0xD800) * 0x400 + (second - 0xDC00)), after)
        else return (Char.ofNat first, rest)
      | none => return (Char.ofNat first, rest)
    | _ => return (Char.ofNat first, rest)
  else return (Char.ofNat first, rest)

/-- The character that a backslash and `c` stand for, `\u` apart. -/
def simpleEscape? (c : Char) : Option Char :=
  if c = '"' || c = '\\' || c = '/' then some c
  else if c = 'b' then some '\x08'
  else if c = 'f' then some '\x0c'
  else if c = 'n' then some '\n'
  else if c = 'r' then some '\r'
  else if c = 't' then some '\t'
  else none

/-- The characters of a text up to its closing quote, behind those in `acc`, which are read
backwards. The fuel bounds their number. -/
def textBody (acc : List Char) : Nat → Reader String
  | 0, _ => none
  | fuel + 1, s =>
    match s with
    | [] => none
    | '"' :: rest => some (String.ofList acc.reverse, rest)
    | '\\' :: 'u' :: rest => do
      let (c, rest) ← unicodeEscape rest
      textBody (c :: acc) fuel rest
    | '\\' :: e :: rest => do
      let c ← simpleEscape? e
      textBody (c :: acc) fuel rest
    | c :: rest => if c.toNat < 0x20 then none else textBody (c :: acc) fuel rest

/-- A text behind its opening quote. -/
def text : Reader String := fun s => textBody [] (s.length + 1) s

/-- The fraction of a number: a point and digits, or nothing. -/
def takeFraction (s : List Char) : List Char × List Char :=
  match s with
  | '.' :: rest =>
    let digits := rest.takeWhile Char.isDigit
    if digits.isEmpty then ([], s) else (digits, rest.drop digits.length)
  | _ => ([], s)

/-- The exponent of a number: `e`, a sign that may be missing, and digits; or nothing. -/
def takeExponent (s : List Char) : Option Int × List Char :=
  match s with
  | c :: rest =>
    if c = 'e' || c = 'E' then
      let (negative, body) := Decimal.splitSign rest
      let digits := body.takeWhile Char.isDigit
      if digits.isEmpty then (none, s)
      else
        let n : Int := Decimal.digitsValue digits
        (some (if negative then -n else n), body.drop digits.length)
    else (none, s)
  | [] => (none, s)

/-- A number. It is an integer if it has neither a fraction nor an exponent. -/
def number : Reader Document := fun s =>
  let (negative, body) :=
    match s with
    | '-' :: rest => (true, rest)
    | _ => (false, s)
  let digits :=
    match body with
    | '0' :: _ => ['0']
    | _ => body.takeWhile Char.isDigit
  if digits.isEmpty then none
  else
    let (fraction, rest) := takeFraction (body.drop digits.length)
    let (exponent, rest) := takeExponent rest
    if fraction.isEmpty && exponent.isNone then
      if Decimal.digitLimit < digits.length then none
      else
        let n : Int := Decimal.digitsValue digits
        some (.integer (if negative then -n else n), rest)
    else
      let value := Decimal.ofDecimal negative (Decimal.digitsValue (digits ++ fraction))
        (exponent.getD 0 - fraction.length)
      some (.real value, rest)

/-- The words that are values. -/
def wordValues : List (String × Document) :=
  [("null", .null), ("true", .bool true), ("false", .bool false), ("NaN", .real (0.0 / 0.0)),
    ("Infinity", .real (1.0 / 0.0)), ("-Infinity", .real (-1.0 / 0.0))]

/-- One of the words that are values. -/
def word : Reader Document := fun s =>
  wordValues.findSome? fun (name, value) =>
    (Text.dropStart? name.toList s).map fun rest => (value, rest)

/-- The elements behind those in `found`, which are held backwards, and the closing mark. There are at
most `fuel` of them. -/
def elementsRest (element : Reader α) (closing : Char) (found : List α) : Nat → Reader (List α)
  | 0, _ => none
  | fuel + 1, s =>
    match skipSpace s with
    | [] => none
    | c :: rest =>
      if c = closing then some (found.reverse, rest)
      else if c = ',' then do
        let (item, rest) ← element (skipSpace rest)
        elementsRest element closing (item :: found) fuel rest
      else none

/-- Elements with commas between them, behind their opening mark and up to the closing one. -/
def elements (element : Reader α) (closing : Char) : Reader (List α) := fun s =>
  match skipSpace s with
  | [] => none
  | c :: rest =>
    if c = closing then some ([], rest)
    else do
      let (item, after) ← element (c :: rest)
      elementsRest element closing [item] (rest.length + 2) after

/-- A member: a text, a colon and a value. -/
def member (value : Reader Document) : Reader (Document × Document) := fun s =>
  match s with
  | '"' :: rest => do
    let (key, rest) ← text rest
    match skipSpace rest with
    | ':' :: rest => do
      let (held, rest) ← value (skipSpace rest)
      return ((.text key, held), rest)
    | _ => none
  | _ => none

/-- A value, for documents at most `fuel` deep. -/
def value : Nat → Reader Document
  | 0, _ => none
  | fuel + 1, s =>
    match s with
    | '"' :: rest => (text rest).map fun (t, rest) => (.text t, rest)
    | '[' :: rest => (elements (value fuel) ']' rest).map fun (items, rest) => (.list items, rest)
    | '{' :: rest =>
      (elements (member (value fuel)) '}' rest).map fun (members, rest) =>
        (Document.ofEntries members, rest)
    | _ => (word s).orElse fun _ => number s

/-- The document that the whole of a text is. -/
def read? (source : String) : Option Document := do
  let chars := source.toList
  let (document, rest) ← value (chars.length + 1) (skipSpace chars)
  if (skipSpace rest).isEmpty then return document else none

end TextShell.Json
