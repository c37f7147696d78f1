import TextShell.Text.Ranges

/-!
# White space

Two sets of blanks are in use and they differ. `isBlank` is the one that splits lists and trims
lines: it holds the separator controls `U+001C` to `U+001F`. `isGap` is the one between the tokens
of a script: it leaves those controls out and holds `U+180E` instead.
-/

namespace TextShell.Text

/-- Blanks beyond ASCII that both sets hold. -/
def blankRanges : Ranges := [
  (133, 133), (160, 160), (5760, 5760), (8192, 8202), (8232, 8233), (8239, 8239), (8287, 8287),
  (12288, 12288)]

/-- A blank of running text. -/
def isBlank (c : Char) : Bool :=
  if c.toNat < 128 then (9 ≤ c.toNat && c.toNat ≤ 13) || (28 ≤ c.toNat && c.toNat ≤ 32)
  else blankRanges.contains c

/-- A blank between the tokens of a script. -/
def isGap (c : Char) : Bool :=
  if c.toNat < 128 then (9 ≤ c.toNat && c.toNat ≤ 13) || c.toNat == 32
  else blankRanges.contains c || c.toNat == 0x180E

/-- The text without the blanks at its start. -/
def trimLeft (s : List Char) : List Char :=
  s.dropWhile isBlank

/-- The text without the blanks at its two ends. -/
def trim (s : List Char) : List Char :=
  ((s.dropWhile isBlank).reverse.dropWhile isBlank).reverse

end TextShell.Text
