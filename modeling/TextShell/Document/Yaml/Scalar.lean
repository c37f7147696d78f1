import TextShell.Decimal.Reader
import TextShell.Document.Basic
import TextShell.Document.Convert
import TextShell.Fault
import TextShell.Text.Case

/-!
# Scalars of YAML

A plain scalar is of the kind whose form its text has; a text of no such form is just text. The forms
are those of version 1.1 of the format: `yes` is a truth value, a leading zero means base eight, an
underscore may stand in a number, colons divide it in base sixty, a real has a point, and a day is
written from the year down. A scalar whose tag says of what kind it is may be written more freely than
one that is known by its form.
-/

namespace TextShell.Yaml

/-- What a node is. -/
inductive Tag where
  | null | bool | integer | real | text | binary | timestamp | sequence | mapping
  /-- A list of mappings of one entry each, which are taken as pairs; keys are meant to differ. -/
  | orderedMap
  /-- The same, where keys may agree. -/
  | pairs
  | set
  /-- The key under which the entries of other mappings are taken in. -/
  | merge
  /-- The sign `=`. -/
  | value
  | other (name : String)
deriving Repr, DecidableEq, Inhabited

/-- What the names of the tags start with. -/
def tagStart : String := "tag:yaml.org,2002:"

/-- The tag of this name. -/
def Tag.ofName (name : String) : Tag :=
  let known := [("null", Tag.null), ("bool", .bool), ("int", .integer), ("float", .real),
    ("str", .text), ("binary", .binary), ("timestamp", .timestamp), ("seq", .sequence),
    ("map", .mapping), ("omap", .orderedMap), ("pairs", .pairs), ("set", .set), ("merge", .merge),
    ("value", .value)]
  ((known.map fun (short, tag) => (tagStart ++ short, tag)).lookup name).getD (.other name)

/-! ## Forms -/

/-- The text without a sign at its start. -/
def unsigned : List Char → List Char
  | '+' :: rest | '-' :: rest => rest
  | s => s

/-- At least one character, and all of a class. -/
def isRun (holds : Char → Bool) (s : List Char) : Bool := !s.isEmpty && s.all holds

/-- A digit, or an underscore between digits. -/
def isDigitOrMark (c : Char) : Bool := c.isDigit || c == '_'

/-- One digit in base sixty. -/
def isSixtieth : List Char → Bool
  | [c] => c.isDigit
  | [c, d] => '0' ≤ c && c ≤ '5' && d.isDigit
  | _ => false

/-- The text cut at its colons. -/
def colonParts (s : List Char) : List (List Char) := s.splitOn ':'

/-- An integer in one of its bases. -/
def isIntegerForm (s : List Char) : Bool :=
  match unsigned s with
  | ['0'] => true
  | '0' :: 'b' :: rest => isRun (fun c => c == '0' || c == '1' || c == '_') rest
  | '0' :: 'x' :: rest =>
    isRun (fun c => c.isDigit || ('a' ≤ c && c ≤ 'f') || ('A' ≤ c && c ≤ 'F') || c == '_') rest
  | '0' :: rest => isRun (fun c => ('0' ≤ c && c ≤ '7') || c == '_') rest
  | c :: rest =>
    c.isDigit &&
      match colonParts rest with
      | [] => false
      | head :: tail => head.all isDigitOrMark && tail.all isSixtieth
  | [] => false

/-- Nothing, or an exponent, which has a sign. -/
def isExponent : List Char → Bool
  | [] => true
  | e :: sign :: digits =>
    (e == 'e' || e == 'E') && (sign == '+' || sign == '-') && isRun Char.isDigit digits
  | _ => false

/-- The digits behind a point, and an exponent. -/
def isFraction (s : List Char) : Bool := isExponent (s.dropWhile isDigitOrMark)

/-- A real. -/
def isRealForm (s : List Char) : Bool :=
  let words := [".inf", ".Inf", ".INF"].map String.toList
  words.contains (unsigned s) || [".nan", ".NaN", ".NAN"].contains (String.ofList s) ||
    match s with
    | '.' :: c :: rest => c.isDigit && isFraction rest
    | _ =>
      match unsigned s with
      | [] => false
      | c :: rest =>
        c.isDigit &&
          match rest.dropWhile isDigitOrMark with
          | '.' :: more => isFraction more
          | ':' :: more =>
            let parts := colonParts (more.takeWhile (· != '.'))
            match more.dropWhile (· != '.') with
            | '.' :: fraction => parts.all isSixtieth && fraction.all isDigitOrMark
            | _ => false
          | _ => false

/-- Up to `most` digits at the start of a text, and what is behind them; at least one. -/
def someDigits? (most : Nat) (s : List Char) : Option (Nat × List Char) :=
  let digits := (s.takeWhile Char.isDigit).take most
  if digits.isEmpty then none else some (Decimal.digitsValue digits, s.drop digits.length)

/-- Exactly `count` digits at the start of a text, and what is behind them. -/
def exactDigits? (count : Nat) (s : List Char) : Option (Nat × List Char) :=
  let digits := s.take count
  if digits.length = count && digits.all Char.isDigit then
    some (Decimal.digitsValue digits, s.drop count)
  else none

/-- What is behind a character at the start of a text. -/
def after? (c : Char) : List Char → Option (List Char)
  | d :: rest => if c = d then some rest else none
  | [] => none

/-- A blank on a line. -/
def isLineBlank (c : Char) : Bool := c == ' ' || c == '\t'

/-- The shift of a clock in minutes, or nothing, at the end of a text. -/
def shift? (s : List Char) : Option (Option Int) := do
  if s.isEmpty then return none
  match s.dropWhile isLineBlank with
  | ['Z'] => return some 0
  | sign :: rest =>
    if sign != '+' && sign != '-' then failure
    let (hours, rest) ← someDigits? 2 rest
    let minutes ← if rest.isEmpty then pure 0 else do
      let (minutes, rest) ← exactDigits? 2 (← after? ':' rest)
      if rest.isEmpty then pure minutes else failure
    let total : Int := hours * 60 + minutes
    return some (if sign == '-' then -total else total)
  | [] => failure

/-- The digits behind the point of a second as a number of microseconds; those beyond it are dropped. -/
def microseconds (fraction : List Char) : Nat :=
  Decimal.digitsValue ((fraction ++ List.replicate 6 '0').take 6)

/-- A time on a day, at the end of a text. -/
def timeOn? (day : Day) (s : List Char) : Option Moment := do
  let (hour, s) ← someDigits? 2 s
  let (minute, s) ← exactDigits? 2 (← after? ':' s)
  let (second, s) ← exactDigits? 2 (← after? ':' s)
  let (fraction, s) := match s with
    | '.' :: rest => (rest.takeWhile Char.isDigit, rest.dropWhile Char.isDigit)
    | _ => ([], s)
  return ⟨day, hour, minute, second, microseconds fraction, ← shift? s⟩

/-- The numbers of a day, or of a moment. -/
def timestamp? (s : List Char) : Option (Day ⊕ Moment) := do
  let (year, s) ← exactDigits? 4 s
  let (month, s) ← someDigits? 2 (← after? '-' s)
  let (day, s) ← someDigits? 2 (← after? '-' s)
  let day : Day := ⟨year, month, day⟩
  match s with
  | [] => return .inl day
  | 'T' :: rest | 't' :: rest => return .inr (← timeOn? day rest)
  | c :: _ => if isLineBlank c then return .inr (← timeOn? day (s.dropWhile isLineBlank)) else failure

/-- A day, or a day with a time. A day alone has all its digits. -/
def isTimestampForm (s : List Char) : Bool :=
  match timestamp? s with
  | some (.inl _) => s.length == 10
  | some (.inr _) => true
  | none => false

/-- Words for truth values. -/
def boolWords : List (String × Bool) := [
  ("yes", true), ("no", false), ("true", true), ("false", false), ("on", true), ("off", false)]

/-- A word in small letters, in capitals, or with a capital at its start. -/
def spellings (word : String) : List String := [word, word.capitalize, word.toUpper]

/-- A truth value. -/
def isBoolForm (s : String) : Bool := (boolWords.flatMap fun word => spellings word.1).contains s

/-- Nothing. -/
def isNullForm (s : String) : Bool := ["", "~", "null", "Null", "NULL"].contains s

/-- A line break at the end of a text does not count for its form. -/
def withoutBreak (s : String) : String :=
  if s.length ≤ 1 || s.toList.getLast? != some '\n' then s else String.ofList s.toList.dropLast

/-- What a plain scalar is. -/
def Tag.ofPlain (text : String) : Tag :=
  let s := withoutBreak text
  if isBoolForm s then .bool
  else if isRealForm s.toList then .real
  else if isIntegerForm s.toList then .integer
  else if s == "<<" then .merge
  else if isNullForm s then .null
  else if isTimestampForm s.toList then .timestamp
  else if s == "=" then .value
  else if s == "!" || s == "&" || s == "*" then .other (tagStart ++ "yaml")
  else .text

/-! ## Values -/

/-- The fault of asking for the first character of nothing. -/
def noFirst : Fault := .reported "IndexError" "string index out of range"

/-- A number in base ten. -/
def decimalNumber (digits : List Char) : Except Fault Int :=
  let s := String.ofList digits
  Document.integerIn s (Text.quote s)

/-- A number in a base that is a power of two. -/
def binaryNumber (base : Nat) (digits : List Char) : Except Fault Int :=
  match Decimal.readBinary? base digits with
  | some n => .ok n
  | none => .error (.notInteger (Text.quote (String.ofList digits)) base)

/-- The integer that a text gives. -/
def integerOf (text : String) : Except Fault Int := do
  let s := text.toList.filter (· != '_')
  let sign : Int := if s.head? == some '-' then -1 else 1
  match unsigned s with
  | [] => .error noFirst
  | ['0'] => return 0
  | '0' :: 'b' :: digits => return sign * (← binaryNumber 2 digits)
  | '0' :: 'x' :: digits => return sign * (← binaryNumber 16 digits)
  | '0' :: digits => return sign * (← binaryNumber 8 ('0' :: digits))
  | digits =>
    if digits.contains ':' then
      let parts ← (colonParts digits).mapM decimalNumber
      return sign * parts.foldl (fun n part => n * 60 + part) 0
    else return sign * (← decimalNumber digits)

/-- A number in decimal. -/
def realNumber (s : List Char) : Except Fault Float :=
  match Decimal.readReal? (String.ofList s) with
  | some x => .ok x
  | none => .error (.notReal (String.ofList s))

/-- The sum of the parts of a number in base sixty, from the last one on, where `unit` is what one of
the next part counts. -/
def sixtySum (sum : Float) (unit : Nat) : List Float → Except Fault Float
  | [] => .ok sum
  | part :: rest =>
    match Decimal.ofInteger? unit with
    | some x => sixtySum (sum + part * x) (unit * 60) rest
    | none => .error .integerToReal

/-- A number that is none, the one real that is not the same as itself. -/
def notANumber : Float := 0.0 / 0.0

/-- The real that a text gives; `none` for the word that stands for no number. -/
def realOf? (text : String) : Except Fault (Option Float) := do
  let s := (Text.lower (String.ofList (text.toList.filter (· != '_')))).toList
  if s.isEmpty then .error noFirst
  let sign : Float := if s.head? == some '-' then -1.0 else 1.0
  let body := unsigned s
  if body == ".inf".toList then return some (sign * (1.0 / 0.0))
  else if body == ".nan".toList then return none
  else if body.contains ':' then
    let parts ← (colonParts body).mapM realNumber
    return some (sign * (← sixtySum 0.0 1 parts.reverse))
  else return some (sign * (← realNumber body))

/-- The truth value that a text gives. -/
def boolOf (text : String) : Except Fault Bool :=
  let word := Text.lower text
  match boolWords.lookup word with
  | some b => .ok b
  | none => .error (.missingField word)

/-- The day or the moment that a text gives. -/
def timestampOf (text : String) : Except Fault Document :=
  match timestamp? (withoutBreak text).toList with
  | some (.inl day) =>
    match day.check with
    | .ok () => .ok (.day day)
    | .error e => .error (.calendar e)
  | some (.inr moment) =>
    match moment.check with
    | .ok () => .ok (.moment moment)
    | .error e => .error (.calendar e)
  | none =>
    .error (.reported "AttributeError" "'NoneType' object has no attribute 'groupdict'")

/-! ## Bytes -/

/-- The six bits that a character of base sixty-four stands for. -/
def sixBits? (c : Char) : Option Nat :=
  if 'A' ≤ c && c ≤ 'Z' then some (c.toNat - 65)
  else if 'a' ≤ c && c ≤ 'z' then some (c.toNat - 71)
  else if c.isDigit then some (c.toNat + 4)
  else if c == '+' then some 62
  else if c == '/' then some 63
  else none

/-- The bytes of a text in base sixty-four, where `held` are the bits of a group of four characters
that wait for more, `place` how many of the four there were, and `pads` how many marks for missing ones
came last. Characters that stand for nothing are passed over, and a group that is filled up by marks is
the last. -/
def sixtyFourBytes? (held place pads : Nat) : List Char → Option (List Nat)
  | [] => if place = 0 then some [] else none
  | c :: rest =>
    if c == '=' then
      if 2 ≤ place && 4 ≤ place + pads + 1 then some []
      else sixtyFourBytes? held place (if 2 ≤ place then pads + 1 else pads) rest
    else match sixBits? c with
      | none => sixtyFourBytes? held place pads rest
      | some bits =>
        match place with
        | 0 => sixtyFourBytes? bits 1 0 rest
        | 1 => (sixtyFourBytes? (bits % 16) 2 0 rest).map ((held * 4 + bits / 16) :: ·)
        | 2 => (sixtyFourBytes? (bits % 4) 3 0 rest).map ((held * 16 + bits / 4) :: ·)
        | _ => (sixtyFourBytes? 0 0 0 rest).map ((held * 64 + bits) :: ·)

/-- The bytes that a text gives, which is all ASCII. -/
def bytesOf (text : String) : Except ReadError Document :=
  if text.toList.all fun c => c.toNat < 128 then
    match sixtyFourBytes? 0 0 0 text.toList with
    | some octets => .ok (.bytes octets)
    | none => .error .malformed
  else .error .malformed

/-- A fault in a scalar. -/
def orFault {α : Type} : Except Fault α → Except ReadError α
  | .ok x => .ok x
  | .error fault => .error (.failed fault)

/-- The document that a scalar of this kind gives; a kind that is not one of scalars gives none. -/
def scalarDocument (tag : Tag) (text : String) : Except ReadError Document := do
  match tag with
  | .null => return .null
  | .bool => return .bool (← orFault (boolOf text))
  | .integer => return .integer (← orFault (integerOf text))
  | .real => return .real ((← orFault (realOf? text)).getD notANumber)
  | .text => return .text text
  | .binary => bytesOf text
  | .timestamp => orFault (timestampOf text)
  | _ => .error .malformed

end TextShell.Yaml
