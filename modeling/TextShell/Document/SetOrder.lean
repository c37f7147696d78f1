import TextShell.Document.Basic

/-!
# The order of a set

A set of numbers is listed by the places that its items have in a table with room for more than twice as
many. An item goes to the place that its residue names, or, if that is taken, to one of the nine behind
it, and then to places that are further and further off. Sets of other items are listed as they came.
-/

namespace TextShell.SetOrder

/-- The prime that residues are taken by. -/
def modulus : Nat := Decimal.pow2 61 - 1

/-- A residue with a sign; minus one is passed over. -/
def signed (negative : Bool) (residue : Nat) : Int :=
  if negative then (if residue = 1 then -2 else -residue) else residue

/-- The residue of a number, the same for numbers of the same value. -/
def residue? (d : Document) : Option Int :=
  match d.numericKey? with
  | some (.inl n) => some (signed (n < 0) (n.natAbs % modulus))
  | some (.inr x) =>
    match Decimal.decode x with
    | .finite negative m e => some (signed negative (m * Decimal.pow2 (e % 61).toNat % modulus))
    | .infinite negative => some (signed negative 314159)
    | .notANumber => none
  | none => none

/-- The number of places for `count` items: a power of two. -/
def tableSize (count : Nat) : Nat :=
  if count < 5 then 8 else Nat.nextPowerOfTwo (2 * count + 1)

/-- The first free place at or behind `place`. -/
def freeFrom? (table : Array (Option Document)) (place count : Nat) : Option Nat :=
  (List.range count).findSome? fun step =>
    match table[place + step]? with
    | some none => some (place + step)
    | _ => none

/-- Puts an item in the table. The item's residue decides where it is tried next. -/
def put (table : Array (Option Document)) (d : Document) (place residue : Nat) :
    Nat → Array (Option Document)
  | 0 => table
  | fuel + 1 =>
    match freeFrom? table place (if place + 9 < table.size then 10 else 1) with
    | some free => table.setIfInBounds free (some d)
    | none =>
      let residue := residue / 32
      put table d ((place * 5 + 1 + residue) % table.size) residue fuel

/-- A residue as a number without a sign, of sixty-four bits. -/
def unsignedResidue (residue : Int) : Nat := (residue % (Decimal.pow2 64 : Int)).toNat

/-- The items of a set in their order. -/
def arrange (items : List Document) : List Document :=
  match items.mapM residue? with
  | none => items
  | some residues =>
    let table := Array.replicate (tableSize items.length) none
    let filled := (items.zip residues).foldl (fun table (d, residue) =>
      let residue := unsignedResidue residue
      put table d (residue % table.size) residue (table.size + 64)) table
    filled.toList.filterMap id

end TextShell.SetOrder
