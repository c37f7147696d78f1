import TextShell.Text.Blank
import TextShell.Text.Hex
import TextShell.Text.Letter
import TextShell.Decimal.Binary64

/-!
# Reading numbers

`readReal?` and `readInteger` are the lenient readers: blanks around the number, digits of any
script, and single underscores between digits. `scanReal?` is the strict grammar below them, over
ASCII. An integer of more than `digitLimit` digits is refused whatever its value.
-/

namespace TextShell.Decimal

/-- The longest numeral that is converted to an integer or written from one. -/
def digitLimit : Nat := 4300

/-- The value of a run of ASCII digits. -/
def digitsValue (s : List Char) : Nat :=
  s.foldl (fun n c => 10 * n + (c.toNat - 48)) 0

/-- Splits a sign off: whether it is a minus, and the rest. -/
def splitSign : List Char → Bool × List Char
  | '-' :: rest => (true, rest)
  | '+' :: rest => (false, rest)
  | s => (false, s)

/-- The exponent at the end of a numeral: nothing, or `e`, an optional sign and digits. -/
def scanExponent? : List Char → Option Int
  | [] => some 0
  | c :: rest =>
    if c = 'e' || c = 'E' then
      let (negative, digits) := splitSign rest
      if digits.isEmpty || !digits.all Char.isDigit then none
      else
        let n : Int := digitsValue digits
        some (if negative then -n else n)
    else none

/-- A numeral without its sign: digits with at most one point among, before or after them, then an
optional exponent. The result is `digits · 10 ^ exponent`. -/
def scanMagnitude? (s : List Char) : Option (Nat × Int) :=
  let whole := s.takeWhile Char.isDigit
  let rest := s.dropWhile Char.isDigit
  let (fraction, tail) :=
    match rest with
    | '.' :: more => (more.takeWhile Char.isDigit, more.dropWhile Char.isDigit)
    | _ => ([], rest)
  if whole.isEmpty && fraction.isEmpty then none
  else (scanExponent? tail).map fun e => (digitsValue (whole ++ fraction), e - fraction.length)

/-- Reads a real: a sign, then a numeral or, in any ASCII case, `inf`, `infinity` or `nan`. -/
def scanReal? (s : List Char) : Option Float :=
  let (negative, body) := splitSign s
  let small := body.map Char.toLower
  if small = "inf".toList || small = "infinity".toList then
    some (ofMagnitude negative (2047 * pow2 52))
  else if small = "nan".toList then some (0.0 / 0.0)
  else (scanMagnitude? body).map fun n => ofDecimal negative n.1 n.2

/-- A blank around a number. -/
def isNumberBlank (c : Char) : Bool :=
  if c.toNat < 128 then (9 ≤ c.toNat && c.toNat ≤ 13) || c.toNat == 32
  else Text.blankRanges.contains c

/-- The number without the blanks around it and with its digits in ASCII. -/
def normalizeNumber (s : List Char) : List Char :=
  let inner := ((s.dropWhile isNumberBlank).reverse.dropWhile isNumberBlank).reverse
  inner.map fun c =>
    match Text.digitValue? c with
    | some d => Char.ofNat (48 + d)
    | none => c

/-- Takes the underscores out; `none` if one does not stand between two digits. -/
def dropUnderscores? (previous : Char) : List Char → Option (List Char)
  | [] => if previous = '_' then none else some []
  | c :: rest =>
    if c = '_' then
      if previous.isDigit then dropUnderscores? c rest else none
    else if previous = '_' && !c.isDigit then none
    else (dropUnderscores? c rest).map (c :: ·)

/-- Reads a real leniently. -/
def readReal? (s : String) : Option Float :=
  (dropUnderscores? ' ' (normalizeNumber s.toList)).bind scanReal?

/-- How reading an integer ends. -/
inductive IntegerReading where
  | integer (n : Int)
  | malformed
  | tooLong (digits : Nat)
deriving Repr, DecidableEq, Inhabited

/-- The run of digits and single underscores at the start of a numeral: the digits and the rest;
`none` if an underscore does not stand between two digits. -/
def takeDigits? (previous : Char) : List Char → Option (List Char × List Char)
  | [] => if previous = '_' then none else some ([], [])
  | c :: rest =>
    if c = '_' then
      if previous.isDigit then takeDigits? c rest else none
    else if c.isDigit then (takeDigits? c rest).map fun parts => (c :: parts.1, parts.2)
    else if previous = '_' then none
    else some ([], c :: rest)

/-- Reads an integer leniently. The length is judged before what follows the digits. -/
def readInteger (s : String) : IntegerReading :=
  let (negative, body) := splitSign (normalizeNumber s.toList)
  match takeDigits? ' ' body with
  | none => .malformed
  | some (digits, rest) =>
    if digitLimit < digits.length then .tooLong digits.length
    else if digits.isEmpty || !rest.isEmpty then .malformed
    else
      let n : Int := digitsValue digits
      .integer (if negative then -n else n)

/-- The letter behind a zero that announces a base. -/
def baseMark (base : Nat) : Char := if base = 2 then 'b' else if base = 8 then 'o' else 'x'

/-- The value of a digit in a base up to sixteen. -/
def digitIn? (base : Nat) (c : Char) : Option Nat :=
  (Text.hexValue? c).filter (· < base)

/-- Reads an integer leniently in base two, eight or sixteen; the base may be announced. -/
def readBinary? (base : Nat) (s : List Char) : Option Int :=
  let (negative, body) := splitSign (normalizeNumber s)
  let digits := match body with
    | '0' :: mark :: rest => if mark.toLower = baseMark base then rest else body
    | _ => body
  if digits.isEmpty || digits.any fun c => (digitIn? base c).isNone then none
  else
    let n : Int := digits.foldl (fun n c => n * base + (digitIn? base c).getD 0) 0
    some (if negative then -n else n)

/-- The text of an integer, if it is within the limit. -/
def integerText? (n : Int) : Option String :=
  if digitLimit < (Nat.toDigits 10 n.natAbs).length then none else some (toString n)

end TextShell.Decimal
