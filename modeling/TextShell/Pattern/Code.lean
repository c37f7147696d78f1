import TextShell.Pattern.CharTest
import TextShell.Pattern.Parser

/-!
# Instructions of a pattern

A pattern as a list of instructions, each of which goes on to the next one unless it says otherwise.
The parts of a pattern that are tried by themselves end with `success`. A repetition of a test on one
character is a single instruction; any other one runs through its body and comes back to `again` after
each round.
-/

namespace TextShell

/-- An instruction. Targets are numbers of instructions. -/
inductive Instruction where
  | success
  | one (t : CharTest)
  | anchor (a : Anchor)
  /-- Remembers the position: that of the start of a group, or of its end. -/
  | mark (slot : Nat)
  /-- What the group matched, up to case if there is a `caseless`, which says whether only that of ASCII
  is ignored. -/
  | backReference (group : Nat) (caseless : Option Bool)
  /-- Goes to the target unless the group has matched. -/
  | unlessMatched (group target : Nat)
  | jump (target : Nat)
  | branch (targets : List Nat)
  /-- What stands `back` characters before the position, and goes on at `next`. -/
  | look (back : Nat) (negated : Bool) (next : Nat)
  | atomic (next : Nat)
  /-- A repetition of a test on one character. -/
  | single (mode : RepeatMode) (low : Nat) (high : Option Nat) (t : CharTest)
  /-- Starts a repetition, at its end. -/
  | rounds (target : Nat)
  /-- The end of a repetition: another round of the body, or on. -/
  | again (isGreedy : Bool) (low : Nat) (high : Option Nat) (body : Nat)
  /-- A repetition of which no round is given back, and goes on at `next`. -/
  | possessive (low : Nat) (high : Option Nat) (next : Nat)
deriving Repr, Inhabited

/-- Writes instructions. -/
abbrev Emitter := StateM (Array Instruction)

namespace Emitter

/-- The number of the next instruction. -/
def here : Emitter Nat := return (← get).size

/-- Writes an instruction and tells its number. -/
def push (i : Instruction) : Emitter Nat := do
  let number ← here
  modify (·.push i)
  return number

/-- Replaces an instruction. -/
def put (number : Nat) (i : Instruction) : Emitter Unit := modify (·.setIfInBounds number i)

end Emitter

/-- The test of a pattern that takes one character. -/
def singleTest? : List Pattern → Option CharTest
  | [.group none body] => singleTest? body
  | [p] => p.test?
  | _ => none

open Emitter in
mutual

/-- Writes the instructions of a piece, where the groups have these widths. -/
def emitPiece (widths : List (Nat × Pattern.Width)) : Pattern → Emitter Unit
  | .char code negated flags => discard (push (.one (.ofChar code negated flags)))
  | .any flags => discard (push (.one (if flags.dotAll then .anything else .notLineBreak)))
  | .oneOf negated items flags => discard (push (.one (.ofItems negated items flags)))
  | .anchor a => discard (push (.anchor a))
  | .choice alternatives => do
    let start ← push .success
    let (targets, jumps) ← emitChoice widths alternatives
    put start (.branch targets)
    let next ← here
    jumps.forM fun number => put number (.jump next)
  | .repetition low high mode body => do
    match singleTest? body with
    | some t => discard (push (.single mode low high t))
    | none =>
      let start ← push .success
      emitPieces widths body
      match mode with
      | .possessive =>
        let last ← push .success
        put start (.possessive low high (last + 1))
      | mode =>
        let last ← push (.again (mode == .greedy) low high (start + 1))
        put start (.rounds last)
  | .group none body => emitPieces widths body
  | .group (some index) body => do
    discard (push (.mark (2 * (index - 1))))
    emitPieces widths body
    discard (push (.mark (2 * (index - 1) + 1)))
  | .backReference index flags =>
    discard (push (.backReference (index - 1) (if flags.ignoreCase then some flags.ascii else none)))
  | .look behind negated body => do
    let start ← push .success
    emitPieces widths body
    let last ← push .success
    let back := if behind then (Pattern.widthOf widths body).low else 0
    put start (.look back negated (last + 1))
  | .atomic body => do
    let start ← push .success
    emitPieces widths body
    let last ← push .success
    put start (.atomic (last + 1))
  | .conditional index yes no => do
    let start ← push .success
    emitPieces widths yes
    if no.isEmpty then put start (.unlessMatched (index - 1) (← here))
    else
      let last ← push .success
      put start (.unlessMatched (index - 1) (last + 1))
      emitPieces widths no
      put last (.jump (← here))

/-- Writes the instructions of a pattern. -/
def emitPieces (widths : List (Nat × Pattern.Width)) : List Pattern → Emitter Unit
  | [] => return ()
  | p :: rest => do
    emitPiece widths p
    emitPieces widths rest

/-- Writes the instructions of alternatives: where each starts, and the jumps at their ends. -/
def emitChoice (widths : List (Nat × Pattern.Width)) :
    List (List Pattern) → Emitter (List Nat × List Nat)
  | [] => return ([], [])
  | p :: rest => do
    let start ← here
    emitPieces widths p
    let last ← push .success
    let (starts, jumps) ← emitChoice widths rest
    return (start :: starts, last :: jumps)

end

/-! ## Where a match may start -/

mutual

/-- A pattern starts with a fixed character: whether it does, and whether it is nothing else than fixed
characters. -/
def literalStart : List Pattern → Bool × Bool
  | [] => (false, true)
  | p :: rest =>
    let (found, isAll) := literalPiece p
    if found || !isAll then (found, false) else literalStart rest

/-- The same for a piece. -/
def literalPiece : Pattern → Bool × Bool
  | .char code false flags => (!flags.ignoreCase || !Caseless.isCased flags.ascii code, false)
  | .group _ body => literalStart body
  | _ => (false, false)

end

/-- Whether case is ignored matters for where a match starts. -/
def SetItem.startIsCased (ascii : Bool) : SetItem → Bool
  | .char code => Caseless.isCased ascii code
  | .range low high => caseLimit ≤ high || Caseless.someCased ascii low high
  | .charClass .. => false

/-- The set that a match starts with. Its classes are those of the options of the whole pattern. -/
def startSet? (ascii : Bool) : List Pattern → Option CharSet
  | .group _ body :: _ => startSet? ascii body
  | .oneOf negated items flags :: _ =>
    if flags.ignoreCase && items.any (SetItem.startIsCased flags.ascii) then none
    else some (.ofMembers negated (items.map (SetItem.exact ascii)))
  | _ => none

/-- The instruction fails except at the start of the text. -/
def Instruction.isTextStart : Instruction → Bool
  | .anchor .textStart | .anchor (.lineStart false) => true
  | _ => false

/-- A pattern that is ready to be searched for. -/
structure Matcher where
  code : Array Instruction
  /-- The number of groups that remember what they match. -/
  groups : Nat
  /-- The least number of characters of a match. -/
  least : Nat
  /-- The characters that a match starts with, where they are known. -/
  start : Option CharSet
  /-- A match starts at the start of the text. -/
  isAnchored : Bool
deriving Inhabited

/-- Prepares a pattern. -/
def ParsedPattern.compile (p : ParsedPattern) : Matcher :=
  let emit : Emitter Unit := do
    emitPieces p.widths p.pieces
    discard (Emitter.push .success)
  let code : Array Instruction := (emit.run #[]).2
  let least := (Pattern.widthOf p.widths p.pieces).low
  { code := code
    groups := p.groups
    least := least
    start := if least = 0 || (literalStart p.pieces).1 then none
      else startSet? p.flags.ascii p.pieces
    isAnchored := (code[0]?).any Instruction.isTextStart }

end TextShell
