import TextShell.Decimal.Binary64

/-!
# The fewest digits that read back

A double is written with as few digits as still read back as the same double, and of those decimals
the one nearest to it. The reals that read back as `m · 2^q` form an interval around it, whose ends
belong to it exactly when `m` is even. With `n` digits the decimals near the double form a grid, and
if any point of the grid lies in the interval, so does one of the two neighbours of the double: those
are the only candidates to try.
-/

namespace TextShell.Decimal

/-- A decimal `digits · 10 ^ exponent`. -/
structure Digits where
  digits : Nat
  exponent : Int
deriving Repr, DecidableEq, Inhabited

/-- The power `base ^ e` as a quotient. -/
def powRatio (base : Nat) (e : Int) : Nat × Nat :=
  if 0 ≤ e then (Nat.pow base e.toNat, 1) else (1, Nat.pow base (-e).toNat)

/-- The least `p` with `num / den < 10 ^ p`, for a quotient that is not a power of ten below one. -/
def decimalPoint (num den : Nat) : Int :=
  if den ≤ num then (Nat.toDigits 10 (num / den)).length
  else 1 - ((Nat.toDigits 10 (den / num)).length : Int)

/-- The candidate with `count` digits for the double `mantissa · 2 ^ exponent`, if one reads back. -/
def candidate? (mantissa : Nat) (exponent : Int) (count : Nat) : Option Digits :=
  -- Everything is measured in quarters of the distance to the next double.
  let quarter := powRatio 2 (exponent - 2)
  let value := 4 * mantissa
  let below := if mantissa = pow2 52 && minExponent < exponent then value - 1 else value - 2
  let above := value + 2
  let point := decimalPoint (value * quarter.1) quarter.2
  let unit := powRatio 10 (point - count)
  -- `c` grid units against `b` quarters: compare `c * scale` with `b * weight`.
  let scale := unit.1 * quarter.2
  let weight := quarter.1 * unit.2
  let lower := value * weight / scale
  let inside (c : Nat) : Bool :=
    if mantissa % 2 = 0 then below * weight ≤ c * scale && c * scale ≤ above * weight
    else below * weight < c * scale && c * scale < above * weight
  let choice : Option Nat :=
    match inside lower, inside (lower + 1) with
    | true, false => some lower
    | false, true => some (lower + 1)
    | true, true =>
      let twice := 2 * value * weight
      let middle := (2 * lower + 1) * scale
      if twice < middle then some lower
      else if middle < twice then some (lower + 1)
      else some (lower + lower % 2)
    | false, false => none
  choice.map fun c => ⟨c, point - count⟩

/-- Drops the zeros at the end, at most `fuel` of them. -/
def Digits.trim (d : Digits) : Nat → Digits
  | 0 => d
  | fuel + 1 =>
    if d.digits ≠ 0 && d.digits % 10 = 0 then
      Digits.trim ⟨d.digits / 10, d.exponent + 1⟩ fuel
    else d

/-- The shortest decimal that reads back as `mantissa · 2 ^ exponent`. Seventeen digits always do. -/
def shortest (mantissa : Nat) (exponent : Int) : Digits :=
  if mantissa = 0 then ⟨0, 0⟩
  else
    let found := (List.range 17).findSome? fun n => candidate? mantissa exponent (n + 1)
    (found.getD ⟨0, 0⟩).trim 18

end TextShell.Decimal
