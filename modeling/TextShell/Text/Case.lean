import TextShell.Text.CaseTable

/-!
# Upper and lower case

Full case mapping: a character may become several (`ß` is written `SS`), and the Greek capital
sigma has two small forms, of which the one for the end of a word is chosen by what stands around
it. `foldChar` is the plain mapping of one character to one, on which caseless matching rests.
-/

namespace TextShell.Text

/-- The character to which the runs move `c`; `c` itself if no run holds it. -/
def CaseRun.apply (runs : List CaseRun) (c : Char) : Char :=
  match runs.find? fun run =>
      run.1 ≤ c.toNat && c.toNat ≤ run.2.1 && (c.toNat - run.1) % run.2.2.1 == 0 with
  | some run => Char.ofNat (run.2.2.2 + (c.toNat - run.1))
  | none => c

/-- The capital form of one character. -/
def upperChar (c : Char) : List Char :=
  if c.toNat < 128 then [c.toUpper]
  else match upperExpansions.lookup c.toNat with
    | some codes => codes.map Char.ofNat
    | none => [CaseRun.apply upperRuns c]

/-- The small form of one character, one for one: the dot of `U+0130` is dropped. -/
def foldChar (c : Char) : Char :=
  if c.toNat < 128 then c.toLower
  else if c.toNat = 0x130 then 'i'
  else CaseRun.apply lowerRuns c

/-- The small form of one character outside any word. -/
def lowerChar (c : Char) : List Char :=
  if c.toNat = 0x130 then ['i', Char.ofNat 0x307] else [foldChar c]

/-- Marks and joiners, which do not end a word. -/
def isCaseIgnorable (c : Char) : Bool :=
  if c.toNat < 128 then c == '\'' || c == '.' || c == ':' || c == '^' || c.toNat == 0x60
  else caseIgnorableRanges.contains c

/-- A character that has a capital or a small form. -/
def isCased (c : Char) : Bool :=
  if c.toNat < 128 then c.isAlpha else casedRanges.contains c

/-- The first character that is not a mark or joiner has a case. -/
def meetsCased (s : List Char) : Bool :=
  match s.dropWhile isCaseIgnorable with
  | [] => false
  | c :: _ => isCased c

/-- A sigma ends a word if a cased character stands before it (`before` is read backwards) and
none after it. -/
def isFinalSigma (before after : List Char) : Bool :=
  meetsCased before && !meetsCased after

/-- The small form of `s`, where `before` is the text in front of it, read backwards. -/
def lowerAfter (before : List Char) : List Char → List Char
  | [] => []
  | c :: rest =>
    let small :=
      if c.toNat = 0x3A3 then
        [if isFinalSigma before rest then Char.ofNat 0x3C2 else Char.ofNat 0x3C3]
      else lowerChar c
    small ++ lowerAfter (c :: before) rest

/-- The text in capitals. -/
def upper (s : String) : String :=
  String.ofList (s.toList.flatMap upperChar)

/-- The text in small letters. -/
def lower (s : String) : String :=
  String.ofList (lowerAfter [] s.toList)

end TextShell.Text
