import TextShell.Pattern.Code

/-!
# Running a pattern

A pattern is matched by following its instructions and coming back to the last choice whenever something
fails. What is to be done on coming back is kept as a stack of frames, so a run is a loop of single
steps. The stack also holds the ends of parts that are tried by themselves: there, success is no longer
that of what comes behind it.

Three things outlive a failure unless a frame restores them. The marks of groups are saved with
a choice only inside a repetition; elsewhere it is enough to forget those that came later. The place
where the last attempt started or ended is used by a repetition that gives nothing back: it goes on from
there after its last round, also if that one failed on its way.
-/

namespace TextShell

/-- How far a repetition is. -/
structure Rounds where
  /-- The number of rounds that were started. -/
  count : Nat
  /-- Where the latest of those started that did not have to be. -/
  last : Option Nat
deriving Repr, DecidableEq, Inhabited

/-- What a run remembers. -/
structure Memory where
  /-- Where the last attempt started or ended. -/
  place : Nat := 0
  /-- Starts and ends of groups, in turn. -/
  marks : Array (Option Nat)
  /-- The marks before this one count. -/
  known : Nat := 0
deriving Repr, Inhabited

/-- What is restored after a failure. -/
structure Saved where
  known : Nat
  marks : Option (Array (Option Nat))
deriving Repr, Inhabited

namespace Memory

/-- What is saved with a choice, inside these repetitions. -/
def save (m : Memory) (rounds : List Rounds) : Saved :=
  ⟨m.known, if rounds.isEmpty then none else some m.marks⟩

/-- What is saved with a round. -/
def saveAll (m : Memory) : Saved := ⟨m.known, some m.marks⟩

/-- The memory as it was. -/
def restore (m : Memory) (saved : Saved) : Memory :=
  { m with known := saved.known, marks := saved.marks.getD m.marks }

/-- Sets a mark. Those that were passed over have no position. -/
def setMark (m : Memory) (slot position : Nat) : Memory :=
  let marks := (List.range (slot - m.known)).foldl
    (fun marks i => marks.setIfInBounds (m.known + i) none) m.marks
  { m with marks := marks.setIfInBounds slot (some position), known := max m.known (slot + 1) }

/-- Start and end of what a group matched. -/
def span? (m : Memory) (group : Nat) : Option (Nat × Nat) :=
  if 2 * group + 1 < m.known then
    match m.marks[2 * group]?, m.marks[2 * group + 1]? with
    | some (some start), some (some stop) => if start ≤ stop then some (start, stop) else none
    | _, _ => none
  else none

/-- Some group ends before it starts. -/
def isTwisted (m : Memory) : Bool :=
  (List.range (m.known / 2)).any fun group =>
    match m.marks[2 * group]?, m.marks[2 * group + 1]? with
    | some (some start), some (some stop) => stop < start
    | _, _ => false

end Memory

/-- What is to be done when an attempt is over. -/
inductive Frame where
  /-- The other alternatives. -/
  | alternatives (targets : List Nat) (position : Nat) (saved : Saved) (rounds : List Rounds)
  /-- A repetition of a test with one character less; `left` can be given back. -/
  | shorter (number position left : Nat) (saved : Saved) (rounds : List Rounds)
  /-- A repetition of a test with one character more. -/
  | longer (number position count : Nat) (saved : Saved) (rounds : List Rounds)
  /-- Nothing else was possible from this position. -/
  | leave (position : Nat)
  /-- What comes behind a repetition, without a further round. -/
  | onward (number position : Nat) (saved : Saved) (rounds : List Rounds)
  /-- A further round of a repetition. -/
  | further (number position : Nat) (saved : Saved) (rounds : List Rounds)
  | look (next position : Nat) (rounds : List Rounds)
  | lookNot (next position : Nat) (saved : Saved) (rounds : List Rounds)
  | atomic (next position : Nat) (rounds : List Rounds)
  /-- A round that has to be of a repetition that gives nothing back. -/
  | required (number position count : Nat) (rounds : List Rounds)
  /-- A round that may be. -/
  | optional (number start count : Nat) (saved : Saved) (rounds : List Rounds)
deriving Repr, Inhabited

/-- What a run does next. -/
inductive Mode where
  | run (number position : Nat) (rounds : List Rounds)
  | succeeded
  | failed
deriving Repr, Inhabited

/-- A run between two steps. -/
structure Machine where
  mode : Mode
  memory : Memory
  frames : List Frame := []
deriving Repr, Inhabited

/-- The character before the position. -/
def charBefore? (text : Array Char) (position : Nat) : Option Char :=
  if position = 0 then none else text[position - 1]?

/-- The condition holds at the position. There is no word boundary in an empty text, and no place that
is none either. -/
def Anchor.holds (text : Array Char) (position : Nat) : Anchor → Bool
  | .lineStart multiline =>
    position == 0 || (multiline && charBefore? text position == some '\n')
  | .lineEnd multiline =>
    position == text.size || (text[position]? == some '\n' && (multiline || position + 1 == text.size))
  | .textStart => position == 0
  | .textEnd => position == text.size
  | .wordBoundary negated ascii =>
    let isWord := fun c => CharClass.holds .word ascii c
    !text.isEmpty && (((charBefore? text position).any isWord != (text[position]?).any isWord) != negated)

namespace CharTest

/-- The character at the position passes. -/
def passesAt (text : Array Char) (position : Nat) (t : CharTest) : Bool :=
  if h : position < text.size then t.passes text[position] else false

/-- How many characters from the position on pass, `most` at most, added to `count`. -/
def countFrom (text : Array Char) (t : CharTest) (position count : Nat) : Nat → Nat
  | 0 => count
  | most + 1 =>
    if t.passesAt text position then countFrom text t (position + 1) (count + 1) most else count

/-- The test is for one character or for a set, as it is written. -/
def isPlain : CharTest → Bool
  | .exactly _ | .inSet _ => true
  | _ => false

/-- The test moves the place of the last attempt along. -/
def movesPlace : CharTest → Bool
  | .smallInSet .. => true
  | _ => false

end CharTest

/-- A number is below a limit, if there is one. -/
def isBelow (n : Nat) : Option Nat → Bool
  | some limit => n < limit
  | none => true

/-- Two characters count as one. -/
def sameChar (caseless : Option Bool) (a b : Char) : Bool :=
  match caseless with
  | none => a == b
  | some ascii => Caseless.small ascii a.toNat == Caseless.small ascii b.toNat

/-- The text from `position` on repeats `count` characters from `start` on. -/
def repeats (text : Array Char) (caseless : Option Bool) (start position : Nat) : Nat → Bool
  | 0 => true
  | count + 1 =>
    match text[start]?, text[position]? with
    | some a, some b =>
      sameChar caseless a b && repeats text caseless (start + 1) (position + 1) count
    | _, _ => false

namespace Machine

/-- Goes on at an instruction. -/
def goTo (s : Machine) (number position : Nat) (rounds : List Rounds) : Machine :=
  { s with mode := .run number position rounds }

/-- Comes back to the last choice. -/
def fail (s : Machine) : Machine := { s with mode := .failed }

/-- Starts an attempt, after which the frame is next. -/
def attempt (s : Machine) (frame : Frame) (number position : Nat) (rounds : List Rounds) : Machine :=
  { mode := .run number position rounds
    memory := { s.memory with place := position }
    frames := frame :: s.frames }

/-- The machine with the place of the last attempt moved. -/
def moveTo (s : Machine) (position : Nat) : Machine :=
  { s with memory := { s.memory with place := position } }

section Steps

variable (code : Array Instruction) (text : Array Char)

/-- The alternative may match here, as far as its first character tells. -/
def mayStart (target position : Nat) : Bool :=
  match code[target]? with
  | some (.one t) => !t.isPlain || t.passesAt text position
  | _ => true

/-- Tries the alternatives. -/
def tryAlternatives (s : Machine) (position : Nat) (saved : Saved) (rounds : List Rounds) :
    List Nat → Machine
  | [] => s.fail
  | target :: rest =>
    if mayStart code text target position then
      s.attempt (.alternatives rest position saved rounds) target position rounds
    else tryAlternatives s position saved rounds rest

/-- The last position, `left` characters back at most, where a test is passed. -/
def lastBefore? (t : CharTest) (position : Nat) : Nat → Option (Nat × Nat)
  | 0 => if t.passesAt text position then some (position, 0) else none
  | left + 1 =>
    if t.passesAt text position then some (position, left + 1)
    else lastBefore? t (position - 1) left

/-- Tries what comes behind a repetition of a test, from a position of which `left` characters can be
given back. -/
def tryShorter (s : Machine) (number position left : Nat) (saved : Saved) (rounds : List Rounds) :
    Machine :=
  let found := match code[number + 1]? with
    | some (.one (.exactly c)) => lastBefore? text (.exactly c) position left
    | _ => some (position, left)
  match found with
  | some (position, left) =>
    s.attempt (.shorter number position left saved rounds) (number + 1) position rounds
  | none => s.fail

/-- A repetition of a test. -/
def runSingle (s : Machine) (number position : Nat) (rounds : List Rounds) (mode : RepeatMode)
    (low : Nat) (high : Option Nat) (t : CharTest) : Machine :=
  if text.size < position + low then s.fail
  else
    let most := match mode, high with
      | .lazy, _ => low
      | _, some high => min high (text.size - position)
      | _, none => text.size - position
    let count := t.countFrom text position 0 most
    let s := s.moveTo (if t.movesPlace then position + count else position)
    if count < low then s.fail
    else match mode with
      | .greedy =>
        tryShorter code text s number (position + count) (count - low) (s.memory.save rounds) rounds
      | .lazy =>
        s.attempt (.longer number (position + count) count (s.memory.save rounds) rounds)
          (number + 1) (position + count) rounds
      | .possessive => s.goTo (number + 1) (position + count) rounds

/-- Another round of a repetition that gives nothing back, or what comes behind it. A round that took
nothing is the last. -/
def runOptional (s : Machine) (number count : Nat) (last : Option Nat) (rounds : List Rounds)
    (high : Option Nat) (next : Nat) : Machine :=
  let place := s.memory.place
  if isBelow count high && last != some place then
    s.attempt (.optional number place count s.memory.saveAll rounds) (number + 1) place rounds
  else s.goTo next place rounds

/-- The end of a round. -/
def runAgain (s : Machine) (number position : Nat) (isGreedy : Bool) (low : Nat) (high : Option Nat)
    (body : Nat) : List Rounds → Machine
  | [] => s.fail
  | own :: outer =>
    if own.count < low then
      s.attempt (.leave position) body position (⟨own.count + 1, own.last⟩ :: outer)
    else if isGreedy then
      if isBelow own.count high && own.last != some position then
        s.attempt (.onward number position s.memory.saveAll (own :: outer)) body position
          (⟨own.count + 1, some position⟩ :: outer)
      else s.attempt (.leave position) (number + 1) position outer
    else
      s.attempt (.further number position (s.memory.save outer) (own :: outer)) (number + 1) position
        outer

/-- Follows one instruction. -/
def follow (s : Machine) (number position : Nat) (rounds : List Rounds) : Instruction → Machine
  | .success => { s.moveTo position with mode := .succeeded }
  | .one t =>
    if t.passesAt text position then s.goTo (number + 1) (position + 1) rounds else s.fail
  | .anchor a => if a.holds text position then s.goTo (number + 1) position rounds else s.fail
  | .mark slot =>
    { s with memory := s.memory.setMark slot position }.goTo (number + 1) position rounds
  | .backReference group caseless =>
    match s.memory.span? group with
    | some (start, stop) =>
      if repeats text caseless start position (stop - start) then
        s.goTo (number + 1) (position + (stop - start)) rounds
      else s.fail
    | none => s.fail
  | .unlessMatched group target =>
    s.goTo (if (s.memory.span? group).isSome then number + 1 else target) position rounds
  | .jump target => s.goTo target position rounds
  | .branch targets => tryAlternatives code text s position (s.memory.save rounds) rounds targets
  | .look back false next =>
    if position < back then s.fail
    else s.attempt (.look next position rounds) (number + 1) (position - back) rounds
  | .look back true next =>
    if position < back then s.goTo next position rounds
    else
      s.attempt (.lookNot next position (s.memory.save rounds) rounds) (number + 1) (position - back)
        rounds
  | .atomic next => s.attempt (.atomic next position rounds) (number + 1) position rounds
  | .single mode low high t => runSingle code text s number position rounds mode low high t
  | .rounds target => (s.moveTo position).goTo target position (⟨0, none⟩ :: rounds)
  | .again isGreedy low high body => runAgain s number position isGreedy low high body rounds
  | .possessive low high next =>
    if 0 < low then s.attempt (.required number position 0 rounds) (number + 1) position rounds
    else runOptional (s.moveTo position) number 0 none rounds high next

/-- The instruction of a repetition that gives nothing back. -/
def possessiveAt (number : Nat) : Nat × Option Nat × Nat :=
  match code[number]? with
  | some (.possessive low high next) => (low, high, next)
  | _ => (0, some 0, number + 1)

/-- A part that was tried by itself has matched. -/
def resume (s : Machine) : Frame → Machine
  | .look next position rounds => s.goTo next position rounds
  | .lookNot .. => s.fail
  | .atomic next _ rounds => s.goTo next s.memory.place rounds
  | .required number position count rounds =>
    let (low, high, next) := possessiveAt code number
    if count + 1 < low then
      s.attempt (.required number position (count + 1) rounds) (number + 1) s.memory.place rounds
    else runOptional s number (count + 1) none rounds high next
  | .optional number start count _ rounds =>
    let (_, high, next) := possessiveAt code number
    runOptional s number (count + 1) (some start) rounds high next
  | _ => s

/-- An attempt has failed. -/
def recover (s : Machine) : Frame → Machine
  | .alternatives targets position saved rounds =>
    tryAlternatives code text { s with memory := s.memory.restore saved } position saved rounds targets
  | .shorter number position left saved rounds =>
    let s := { s with memory := s.memory.restore saved }
    match left with
    | 0 => s
    | left + 1 => tryShorter code text s number (position - 1) left saved rounds
  | .longer number position count saved rounds =>
    let s := { s with memory := { s.memory.restore saved with place := position } }
    match code[number]? with
    | some (.single _ _ high t) =>
      if t.passesAt text position then
        if isBelow count high then
          s.attempt (.longer number (position + 1) (count + 1) saved rounds) (number + 1) (position + 1)
            rounds
        else s.moveTo (if t.movesPlace then position + 1 else position)
      else s
    | _ => s
  | .leave position => s.moveTo position
  | .onward number position saved rounds =>
    { s with memory := s.memory.restore saved }.attempt (.leave position) (number + 1) position
      rounds.tail
  | .further number position saved rounds =>
    let s := { s with memory := s.memory.restore saved }.moveTo position
    match code[number]?, rounds with
    | some (.again _ _ high body), own :: outer =>
      if isBelow own.count high && own.last != some position then
        s.attempt (.leave position) body position (⟨own.count + 1, some position⟩ :: outer)
      else s
    | _, _ => s
  | .look .. => s
  | .lookNot next position saved rounds =>
    { s with memory := s.memory.restore saved }.goTo next position rounds
  | .atomic _ position _ | .required _ position _ _ => s.moveTo position
  | .optional number _ _ saved rounds =>
    let (_, _, next) := possessiveAt code number
    { s with memory := s.memory.restore saved }.goTo next s.memory.place rounds

/-- Runs to the end: what is remembered after a match. -/
def run : Nat → Machine → Option Memory
  | 0, _ => none
  | fuel + 1, s =>
    match s.mode, s.frames with
    | .run number position rounds, _ =>
      match code[number]? with
      | some i => run fuel (follow code text s number position rounds i)
      | none => none
    | .succeeded, [] => some s.memory
    | .succeeded, frame :: frames => run fuel (resume code { s with frames := frames } frame)
    | .failed, [] => none
    | .failed, frame :: frames => run fuel (recover code text { s with frames := frames } frame)

end Steps

end Machine

/-- Fuel for runs that are meant to end. -/
def matchFuel : Nat := 1000000000000000000

end TextShell
