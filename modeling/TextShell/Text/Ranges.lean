/-!
# Classes of characters as ranges of code points

A class of characters beyond ASCII is data of a standard, so it is kept as a list of closed ranges
of code points and asked by one function. Classes write their ASCII part as a plain test and leave
the list to the rest: the common case is a comparison, and a fact about an ASCII character is
decided without opening a table.
-/

namespace TextShell.Text

/-- Closed ranges of code points, in increasing order and apart from one another. -/
abbrev Ranges := List (Nat × Nat)

/-- Some range holds the code point of `c`. -/
def Ranges.contains (ranges : Ranges) (c : Char) : Bool :=
  ranges.any fun range => range.1 ≤ c.toNat && c.toNat ≤ range.2

end TextShell.Text
