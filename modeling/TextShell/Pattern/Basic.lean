import TextShell.Text.Blank
import TextShell.Text.Caseless
import TextShell.Text.Letter

/-!
# Patterns

The tree of a pattern that lines are searched for. Code points stand for characters, since an escape
can name one that is no character. Each leaf carries the options under which it was written, so a tree
means the same wherever it stands.
-/

namespace TextShell

/-- Options of a pattern. -/
structure PatternFlags where
  ignoreCase : Bool := false
  multiline : Bool := false
  dotAll : Bool := false
  verbose : Bool := false
  ascii : Bool := false
deriving Repr, DecidableEq, Inhabited

/-- The options with one of them set. -/
def PatternFlags.turn (flags : PatternFlags) (on : Bool) (c : Char) :
    PatternFlags :=
  match c with
  | 'i' => { flags with ignoreCase := on }
  | 'm' => { flags with multiline := on }
  | 's' => { flags with dotAll := on }
  | 'x' => { flags with verbose := on }
  | 'a' => { flags with ascii := on }
  | 'u' => { flags with ascii := !on }
  | _ => flags

/-- Named classes of characters. -/
inductive CharClass where
  | digit | space | word
deriving Repr, DecidableEq, Inhabited

/-- The class holds the character. -/
def CharClass.holds (kind : CharClass) (ascii : Bool) (c : Char) : Bool :=
  (!ascii || c.toNat < 128) &&
    match kind with
    | .digit => (Text.digitValue? c).isSome
    | .space => if ascii then c.toNat == 32 || (9 ≤ c.toNat && c.toNat ≤ 13) else Text.isBlank c
    | .word => Text.isWordChar c || c == '_'

/-- A member of a set of characters. -/
inductive SetItem where
  | char (code : Nat)
  | range (low high : Nat)
  | charClass (kind : CharClass) (negated : Bool)
deriving Repr, DecidableEq, Inhabited

/-- Conditions on a position. -/
inductive Anchor where
  | lineStart (multiline : Bool)
  | lineEnd (multiline : Bool)
  | textStart
  | textEnd
  | wordBoundary (negated ascii : Bool)
deriving Repr, DecidableEq, Inhabited

/-- How many rounds a repetition prefers. -/
inductive RepeatMode where
  | greedy
  | lazy
  /-- As many as it can, and none of them given back. -/
  | possessive
deriving Repr, DecidableEq, Inhabited

/-- One piece of a pattern; a pattern is a list of them, one behind the other. -/
inductive Pattern where
  /-- This character, or any other. -/
  | char (code : Nat) (negated : Bool) (flags : PatternFlags)
  | any (flags : PatternFlags)
  | oneOf (negated : Bool) (items : List SetItem) (flags : PatternFlags)
  | anchor (a : Anchor)
  /-- The first of these that matches. -/
  | choice (alternatives : List (List Pattern))
  /-- Without `high` there is no upper limit. -/
  | repetition (low : Nat) (high : Option Nat) (mode : RepeatMode) (body : List Pattern)
  /-- A group; one with a number remembers what it matched, one without stands for options of its own. -/
  | group (index : Option Nat) (body : List Pattern)
  /-- What the group of this number matched last. -/
  | backReference (index : Nat) (flags : PatternFlags)
  /-- What stands ahead of a position, or behind it. -/
  | look (behind negated : Bool) (body : List Pattern)
  /-- The first way to match, and no other. -/
  | atomic (body : List Pattern)
  /-- One of two patterns, by whether the group of this number has matched. -/
  | conditional (index : Nat) (yes no : List Pattern)
deriving Repr, Inhabited

namespace Pattern

/-- The two are the same and have no parts. -/
def sameLeaf : Pattern → Pattern → Bool
  | .char m b f, .char n c g => m == n && b == c && f == g
  | .any f, .any g => f == g
  | .oneOf b items f, .oneOf c others g => b == c && items == others && f == g
  | .anchor a, .anchor b => a == b
  | .backReference m f, .backReference n g => m == n && f == g
  | _, _ => false

/-- The least and the greatest number of characters that something matches. -/
structure Width where
  low : Nat
  high : Nat
deriving Repr, DecidableEq, Inhabited

/-- A width that stands for any greater one. -/
def widest : Nat := 18446744073709551616

/-- The width of two things one behind the other. -/
def Width.add (v w : Width) : Width := ⟨min (v.low + w.low) widest, min (v.high + w.high) widest⟩

/-- The width of one of two things. -/
def Width.either (v w : Width) : Width := ⟨min v.low w.low, max v.high w.high⟩

/-- The width of a repetition. What takes no characters takes none however often it is repeated. -/
def Width.times (w : Width) (low : Nat) (high : Option Nat) : Width :=
  ⟨min (w.low * low) widest,
    match high with
    | some high => min (w.high * high) widest
    | none => if w.high = 0 then 0 else widest⟩

mutual

/-- The width of a piece, where the groups have these widths. -/
def width (groups : List (Nat × Width)) : Pattern → Width
  | .anchor _ | .look .. => ⟨0, 0⟩
  | .char .. | .any _ | .oneOf .. => ⟨1, 1⟩
  | .choice alternatives => widthOfChoice groups alternatives
  | .repetition low high _ body => (widthOf groups body).times low high
  | .group _ body | .atomic body => widthOf groups body
  | .backReference index _ => (groups.lookup index).getD ⟨0, 0⟩
  | .conditional _ yes no => (widthOf groups yes).either (widthOf groups no)

/-- The width of a pattern. -/
def widthOf (groups : List (Nat × Width)) : List Pattern → Width
  | [] => ⟨0, 0⟩
  | p :: rest => (p.width groups).add (widthOf groups rest)

/-- The width of alternatives. -/
def widthOfChoice (groups : List (Nat × Width)) : List (List Pattern) → Width
  | [] => ⟨widest, 0⟩
  | p :: rest => (widthOf groups p).either (widthOfChoice groups rest)

end

end Pattern

end TextShell
