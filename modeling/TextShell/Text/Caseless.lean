import TextShell.Text.Case

/-!
# Comparing without case

Code points are compared by their small forms, one code point for one. Some small forms differ although
they have the same capital, such as the two small sigmas; they are listed as siblings and count as one.
With `ascii`, only the letters of ASCII have a case.

Everything here is about code points and not about characters: a pattern can name code points that are
no characters.
-/

namespace TextShell.Caseless

/-- Code points of small letters that share a capital. -/
def families : List (List Nat) := [
  [105, 305], [115, 383], [181, 956], [837, 953, 8126], [912, 8147], [944, 8163], [946, 976],
  [949, 1013], [952, 977], [954, 1008], [960, 982], [961, 1009], [962, 963], [966, 981],
  [1074, 7296], [1076, 7297], [1086, 7298], [1089, 7299], [1090, 7300, 7301], [1098, 7302],
  [1123, 7303], [7304, 42571], [7777, 7835], [64261, 64262]]

/-- The small form of a code point. -/
def small (ascii : Bool) (n : Nat) : Nat :=
  if n.isValidChar && (!ascii || n < 128) then (Text.foldChar (Char.ofNat n)).toNat else n

/-- The capital form of a code point, the first character of it where there are several. -/
def capital (n : Nat) : Nat :=
  if n.isValidChar then
    match Text.upperChar (Char.ofNat n) with
    | c :: _ => c.toNat
    | [] => n
  else n

/-- A code point has a case. -/
def isCased (ascii : Bool) (n : Nat) : Bool :=
  if ascii then n < 128 && (Char.ofNat n).isAlpha else small false n != n || capital n != n

/-- The small forms that count as this one, itself included. -/
def siblings (ascii : Bool) (n : Nat) : List Nat :=
  if ascii then [n] else (families.find? fun family => family.contains n).getD [n]

/-- The code points of a run that lie between `low` and `high`: there are some. -/
def meetsRun (low high : Nat) (run : Text.CaseRun) : Bool :=
  let (first, last, step, _) := run
  let start := if low ≤ first then first else first + (low - first + step - 1) / step * step
  start ≤ last && start ≤ high

/-- Some code point between `low` and `high` has a case. -/
def someCased (ascii : Bool) (low high : Nat) : Bool :=
  (low ≤ 90 && 65 ≤ high) || (low ≤ 122 && 97 ≤ high) ||
    (!ascii &&
      ((low ≤ 0x130 && 0x130 ≤ high) || Text.lowerRuns.any (meetsRun low high) ||
        Text.upperRuns.any (meetsRun low high) ||
        Text.upperExpansions.any fun entry => low ≤ entry.1 && entry.1 ≤ high))

/-- The code point of a run that moves to `n`. -/
def sourceInRun? (n : Nat) (run : Text.CaseRun) : Option Nat :=
  let (first, last, step, image) := run
  if image ≤ n && n - image ≤ last - first && (n - image) % step == 0 then some (first + (n - image))
  else none

/-- The code points whose small form is `n`. -/
def sources (ascii : Bool) (n : Nat) : List Nat :=
  let self := if small ascii n == n then [n] else []
  let letter := if 97 ≤ n && n ≤ 122 then [n - 32] else []
  if ascii then self ++ letter
  else self ++ letter ++ (if n == 105 then [0x130] else []) ++ Text.lowerRuns.filterMap (sourceInRun? n)

end TextShell.Caseless
