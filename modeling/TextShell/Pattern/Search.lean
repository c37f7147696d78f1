import TextShell.Pattern.Machine

/-!
# Searching for a pattern

A line is searched from left to right for a position from which the pattern matches. A match that
leaves a group with its end before its start is a fault.
-/

namespace TextShell.Matcher

/-- What is remembered after a match from this position. -/
def matchAt? (p : Matcher) (text : Array Char) (marks : Array (Option Nat)) (start : Nat) :
    Option Memory :=
  Machine.run p.code text matchFuel { mode := .run 0 start [], memory := { place := start, marks := marks } }

/-- What is remembered after a match from one of `count` positions, the first of which is `start`. -/
def searchFrom? (p : Matcher) (text : Array Char) (marks : Array (Option Nat)) (start : Nat) :
    Nat → Option Memory
  | 0 => none
  | count + 1 =>
    let mayStart : Bool := match p.start with
      | some set => (text[start]?).any fun c => set.holds c.toNat
      | none => true
    if mayStart then
      match p.matchAt? text marks start with
      | some m => some m
      | none => searchFrom? p text marks (start + 1) count
    else searchFrom? p text marks (start + 1) count

/-- The pattern matches somewhere in the line. -/
def occursIn (p : Matcher) (line : String) : Except Fault Bool :=
  let text := line.toList.toArray
  let marks := Array.replicate (2 * p.groups) none
  let count := if text.size < p.least then 0
    else if p.isAnchored then 1
    else text.size + 1 - (p.least - 1)
  match p.searchFrom? text marks 0 count with
  | some m =>
    if m.isTwisted then
      .error (.reported "SystemError"
        "The span of capturing group is wrong, please report a bug for the re module.")
    else .ok true
  | none => .ok false

end TextShell.Matcher
