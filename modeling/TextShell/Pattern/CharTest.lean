import TextShell.Pattern.Basic

/-!
# Tests on one character

What a leaf of a pattern asks of a character. Where case is ignored, it is the small form that is asked
about, and a set holds the small forms of its members and their siblings. Members beyond the first
sixty-five thousand code points are the exception: a single one stands for itself alone, and a range is
also asked for the capital.
-/

namespace TextShell

/-- A member of a set as it is tested. -/
inductive SetMember where
  | range (low high : Nat)
  | charClass (kind : CharClass) (negated ascii : Bool)
  /-- The small forms of a range of code points, and their siblings. -/
  | smallForms (low high : Nat) (ascii : Bool)
  /-- A range that holds a small form or its capital. -/
  | anyCase (low high : Nat)
deriving Repr, DecidableEq, Inhabited

/-- The code points that small forms are taken of lie below this one. -/
def caseLimit : Nat := 65536

/-- The member holds a code point. -/
def SetMember.holds (n : Nat) : SetMember → Bool
  | .range low high => low ≤ n && n ≤ high
  | .charClass kind negated ascii => kind.holds ascii (Char.ofNat n) != negated
  | .smallForms low high ascii =>
    (Caseless.siblings ascii n).any fun sibling =>
      (Caseless.sources ascii sibling).any fun source => low ≤ source && source ≤ high
  | .anyCase low high =>
    (low ≤ n && n ≤ high) || (low ≤ Caseless.capital n && Caseless.capital n ≤ high)

/-- A set of characters. -/
structure CharSet where
  negated : Bool
  members : List SetMember
  /-- The answers for the code points of ASCII. -/
  ascii : Array Bool
deriving Repr, DecidableEq, Inhabited

namespace CharSet

/-- Some member holds the code point. -/
def someHolds (members : List SetMember) (n : Nat) : Bool := members.any (SetMember.holds n)

/-- The set of these members. -/
def ofMembers (negated : Bool) (members : List SetMember) : CharSet :=
  ⟨negated, members, ((List.range 128).map (someHolds members)).toArray⟩

/-- The set holds a code point. -/
def holds (s : CharSet) (n : Nat) : Bool :=
  (match s.ascii[n]? with
    | some answer => answer
    | none => someHolds s.members n) != s.negated

end CharSet

namespace SetItem

/-- The member that an item asks for. -/
def exact (ascii : Bool) : SetItem → SetMember
  | .char code => .range code code
  | .range low high => .range low high
  | .charClass kind negated => .charClass kind negated ascii

/-- The members that an item asks for where case is ignored. -/
def caseless (ascii : Bool) : SetItem → List SetMember
  | .char code =>
    if Caseless.small ascii code < caseLimit then [.smallForms code code ascii] else [.range code code]
  | .range low high =>
    if high < caseLimit then [.smallForms low high ascii]
    else [.smallForms low (caseLimit - 1) ascii, .anyCase low high]
  | .charClass kind negated => [.charClass kind negated ascii]

/-- Whether case is ignored matters for the item. -/
def isCased (ascii : Bool) : SetItem → Bool
  | .char code => caseLimit ≤ code || Caseless.isCased ascii code
  | .range low high => caseLimit ≤ high || Caseless.someCased ascii low high
  | .charClass .. => false

end SetItem

/-- A test on one character. -/
inductive CharTest where
  | exactly (code : Nat)
  | otherThan (code : Nat)
  /-- The small form is this one. -/
  | smallForm (code : Nat) (negated ascii : Bool)
  | notLineBreak
  | anything
  | inSet (s : CharSet)
  /-- The small form is in a set. -/
  | smallInSet (s : CharSet) (ascii : Bool)
deriving Repr, DecidableEq, Inhabited

namespace CharTest

/-- The character passes. -/
def passes (c : Char) : CharTest → Bool
  | .exactly code => c.toNat == code
  | .otherThan code => c.toNat != code
  | .smallForm code negated ascii => (Caseless.small ascii c.toNat == code) != negated
  | .notLineBreak => c != '\n'
  | .anything => true
  | .inSet s => s.holds c.toNat
  | .smallInSet s ascii => s.holds (Caseless.small ascii c.toNat)

/-- The test for one character, or for any other. -/
def ofChar (code : Nat) (negated : Bool) (flags : PatternFlags) : CharTest :=
  if !flags.ignoreCase || !Caseless.isCased flags.ascii code then
    if negated then .otherThan code else .exactly code
  else
    let small := Caseless.small flags.ascii code
    match Caseless.siblings flags.ascii small with
    | [_] => .smallForm small negated flags.ascii
    | siblings =>
      .smallInSet (.ofMembers negated (siblings.map fun n => .range n n)) flags.ascii

/-- The test for a set. -/
def ofItems (negated : Bool) (items : List SetItem) (flags : PatternFlags) : CharTest :=
  if flags.ignoreCase && items.any (SetItem.isCased flags.ascii) then
    .smallInSet (.ofMembers negated (items.flatMap (SetItem.caseless flags.ascii))) flags.ascii
  else .inSet (.ofMembers negated (items.map (SetItem.exact flags.ascii)))

end CharTest

namespace Pattern

/-- The test of a piece that takes one character. -/
def test? : Pattern → Option CharTest
  | .char code negated flags => some (.ofChar code negated flags)
  | .any flags => some (if flags.dotAll then .anything else .notLineBreak)
  | .oneOf negated items flags => some (.ofItems negated items flags)
  | _ => none

end Pattern

end TextShell
