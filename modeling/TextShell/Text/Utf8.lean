/-!
# Bytes as text

UTF-8 that may be ill-formed: the longest start of a character that can go on is replaced as a whole,
and so is every byte that can start nothing. One state is kept, the character that is owed bytes.
-/

namespace TextShell.Text

/-- The character that stands for bytes that are none. -/
def replacement : Char := Char.ofNat 0xFFFD

/-- The start of a character: its bits so far, the number of bytes owed, and the range of the next. -/
structure Partial where
  code : Nat
  owed : Nat
  low : Nat := 0x80
  high : Nat := 0xBF
deriving Repr, DecidableEq, Inhabited

/-- What a byte starts: a character by itself, one that is owed more, or nothing. -/
inductive ByteStart where
  | complete (c : Char)
  | incomplete (p : Partial)
  | nothing
deriving Repr, DecidableEq, Inhabited

/-- What a byte starts. The first byte narrows the range of the second, which leaves out long forms,
surrogates and what is beyond the last code point. -/
def startOf (byte : Nat) : ByteStart :=
  if byte < 0x80 then .complete (Char.ofNat byte)
  else if 0xC2 ≤ byte && byte ≤ 0xDF then .incomplete { code := byte - 0xC0, owed := 1 }
  else if byte == 0xE0 then .incomplete { code := 0, owed := 2, low := 0xA0 }
  else if byte == 0xED then .incomplete { code := 0xD, owed := 2, high := 0x9F }
  else if 0xE1 ≤ byte && byte ≤ 0xEF then .incomplete { code := byte - 0xE0, owed := 2 }
  else if byte == 0xF0 then .incomplete { code := 0, owed := 3, low := 0x90 }
  else if 0xF1 ≤ byte && byte ≤ 0xF3 then .incomplete { code := byte - 0xF0, owed := 3 }
  else if byte == 0xF4 then .incomplete { code := 4, owed := 3, high := 0x8F }
  else .nothing

/-- A byte between characters: what it yields, and what is owed after it. -/
def feedStart (byte : Nat) : List Char × Option Partial :=
  match startOf byte with
  | .complete c => ([c], none)
  | .incomplete p => ([], some p)
  | .nothing => ([replacement], none)

/-- One byte: what it yields, and what is owed after it. -/
def feed (state : Option Partial) (byte : Nat) : List Char × Option Partial :=
  match state with
  | none => feedStart byte
  | some p =>
    if p.low ≤ byte && byte ≤ p.high then
      let code := p.code * 64 + (byte - 0x80)
      if p.owed ≤ 1 then ([Char.ofNat code], none)
      else ([], some { code := code, owed := p.owed - 1 })
    else
      let (chars, next) := feedStart byte
      (replacement :: chars, next)

/-- The text of bytes, given what the bytes before them owe. -/
def decodeFrom (state : Option Partial) : List Nat → List Char
  | [] => if state.isSome then [replacement] else []
  | byte :: rest =>
    let (chars, next) := feed state byte
    chars ++ decodeFrom next rest

/-- The text of bytes that are well formed; `none` if they are not. -/
def decodeStrict? (bytes : List Nat) : Option (List Char) :=
  let rec go (state : Option Partial) : List Nat → Option (List Char)
    | [] => if state.isSome then none else some []
    | byte :: rest =>
      match state, startOf byte with
      | none, .nothing => none
      | none, .complete c => (go none rest).map (c :: ·)
      | none, .incomplete p => go (some p) rest
      | some p, _ =>
        if p.low ≤ byte && byte ≤ p.high then
          let code := p.code * 64 + (byte - 0x80)
          if p.owed ≤ 1 then (go none rest).map (Char.ofNat code :: ·)
          else go (some { code := code, owed := p.owed - 1 }) rest
        else none
  go none bytes

/-- Ways to read bytes. -/
inductive Charset where
  | utf8
  /-- Each byte is the code point of its number. -/
  | latin1
  /-- The first half of the bytes; the others are replaced. -/
  | ascii
deriving Repr, DecidableEq, Inhabited

/-- The text of bytes. -/
def Charset.decode (charset : Charset) (bytes : List Nat) : String :=
  match charset with
  | .utf8 => String.ofList (decodeFrom none bytes)
  | .latin1 => String.ofList (bytes.map Char.ofNat)
  | .ascii => String.ofList (bytes.map fun b => if b < 0x80 then Char.ofNat b else replacement)

/-- The name of a charset in small letters, with whatever divides its parts as one underscore. Only
letters and digits of ASCII and the point are part of it; marks at its ends are dropped. -/
def plainName (name : List Char) : List Char :=
  let isPart (c : Char) := c.isAlphanum || c == '.'
  let rec go (isStart divided : Bool) : List Char → List Char
    | [] => []
    | c :: rest =>
      if isPart c then
        let small := c.toLower :: go false false rest
        if divided && !isStart then '_' :: small else small
      else go isStart true rest
  go true false name

/-- Names of the reading by code points. -/
def latin1Names : List String := [
  "8859", "cp819", "csisolatin1", "ibm819", "iso8859", "iso8859_1", "iso_8859_1", "iso_8859_1_1987",
  "iso_ir_100", "l1", "latin", "latin1"]

/-- Names of the reading of the first half. -/
def asciiNames : List String := [
  "646", "ansi_x3.4_1968", "ansi_x3.4_1986", "ansi_x3_4_1968", "cp367", "csascii", "ibm367",
  "iso646_us", "iso_646.irv_1991", "iso_ir_6", "us", "us_ascii"]

/-- The charset of a name. Case does not count, nor which marks divide its parts; in all names but the
first of a charset a point is such a mark too. A name that is not known stands for the usual one. -/
def Charset.ofName (name : String) : Charset :=
  let plain := String.ofList (plainName name.toList)
  let undotted := String.ofList (plain.toList.map fun c => if c == '.' then '_' else c)
  let isOne (first : String) (others : List String) : Bool :=
    plain == first || others.contains plain || others.contains undotted
  if isOne "latin_1" latin1Names then .latin1
  else if isOne "ascii" asciiNames then .ascii
  else .utf8

end TextShell.Text
