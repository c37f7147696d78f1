import TextShell.Text.Hex
import TextShell.Text.Printable

/-!
# Quoted text

A text is quoted on one line, so that it can stand inside a message. Single quotes are used, unless
the text holds a single quote and no double one. Characters that are not printable are written by
their code point.
-/

namespace TextShell.Text

/-- One character inside the quotes `mark`. -/
def quoteChar (mark c : Char) : List Char :=
  if c = mark || c = '\\' then ['\\', c]
  else if c = '\t' then ['\\', 't']
  else if c = '\n' then ['\\', 'n']
  else if c = '\r' then ['\\', 'r']
  else if isPrintable c then [c]
  else if c.toNat ≤ 0xFF then '\\' :: 'x' :: hex 2 c.toNat
  else if c.toNat ≤ 0xFFFF then '\\' :: 'u' :: hex 4 c.toNat
  else '\\' :: 'U' :: hex 8 c.toNat

/-- The mark around a quoted text. -/
def quoteMark (s : List Char) : Char :=
  if s.contains '\'' && !s.contains '"' then '"' else '\''

/-- The text in quotes. -/
def quote (s : String) : String :=
  let mark := quoteMark s.toList
  String.ofList (mark :: s.toList.flatMap (quoteChar mark) ++ [mark])

/-- Bytes in quotes, each beyond the printable ones by its number. -/
def quoteBytes (octets : List Nat) : String :=
  let chars := octets.map Char.ofNat
  let mark := quoteMark chars
  let body := chars.flatMap fun c =>
    if c.toNat < 128 then quoteChar mark c else '\\' :: 'x' :: hex 2 c.toNat
  String.ofList ('b' :: mark :: body ++ [mark])

end TextShell.Text
