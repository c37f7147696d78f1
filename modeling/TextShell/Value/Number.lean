import TextShell.Text.Case
import TextShell.Decimal.Reader
import TextShell.Fault
import TextShell.Value.Basic

/-!
# Numbers in the text of a value

A value is a number if all of its text is one. The words for infinity and for no number are
recognised caselessly, which also lets the dotted and the dotless `i` through; the conversion then
refuses them, and that is a fault rather than "not a number".
-/

namespace TextShell

/-- One character of a word for a special number, in small letters and with any `i` as `i`. -/
def foldNumberChar (c : Char) : Char :=
  if c.toNat = 0x131 then 'i' else Text.foldChar c

/-- The words for infinity and for no number. -/
def isSpecialNumber (s : List Char) : Bool :=
  let small := s.map foldNumberChar
  small = "inf".toList || small = "infinity".toList || small = "nan".toList

/-- The text has the form of a real. -/
def isRealForm (s : List Char) : Bool :=
  let body := (Decimal.splitSign s).2
  (Decimal.scanMagnitude? body).isSome || isSpecialNumber body

/-- The text has the form of an integer. -/
def isIntegerForm (s : List Char) : Bool :=
  let body := (Decimal.splitSign s).2
  !body.isEmpty && body.all Char.isDigit

/-- The real that a text is; `none` if it does not have the form of one. -/
def realOfText (text : String) : Except Fault (Option Float) :=
  if isRealForm text.toList then
    match Decimal.scanReal? text.toList with
    | some x => .ok (some x)
    | none => .error (.notReal text)
  else .ok none

/-- The integer that a text is; `none` if it does not have the form of one. -/
def integerOfText (text : String) : Except Fault (Option Int) :=
  if isIntegerForm text.toList then
    match Decimal.readInteger text with
    | .integer n => .ok (some n)
    | .tooLong digits => .error (.numeralTooLong digits)
    | .malformed => .error (.notInteger (Text.quote text))
  else .ok none

/-- The text as a real. -/
def Value.asReal (v : Value) : Except Fault (Option Float) := realOfText v.text

/-- The text as an integer. -/
def Value.asInteger (v : Value) : Except Fault (Option Int) := integerOfText v.text

end TextShell
