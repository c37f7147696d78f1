import TextShell.Proofs.Eval.Limits
import TextShell.Session

/-!
# Executions can be split

A list of statements does two things: it runs its statements one after the other,
up to the first that leaves the list, and it sums up their signals.  The first of
these does not depend on the result so far, and the second is a function of the
signals.  So a list can be cut at any point: the rest of it does what it would do
by itself, and only its result is put behind that of the first part.

At the top level there are no frames, so what a list leaves to the next one is the
globals and the world.  A session that is handed the statements in several lists
comes to the same as one that is handed all of them at once.

## Main results

* `evalStatements_eq` — statements are run, and then their signals are summed up.
* `evaluate_append` — two lists, one behind the other.
* `Signal.total_followedBy` — signals summed up behind another result.
* `Session.feed_eq` — a session fed list by list.
* `execution_splits` — executions can be split at any point.
-/

namespace TextShell

namespace Signal

/-- The signal adds a value to the result. -/
def isAppend : Signal → Bool
  | .append _ => true
  | _ => false

/-- The signal replaces the result. -/
def isCleared : Signal → Bool
  | .cleared _ => true
  | _ => false

/-- What a list signals, behind the result so far, whose statements have signalled
these. -/
def total (output : Value) : List Signal → Signal
  | [] => .append output
  | .proceed :: rest => total output rest
  | .append v :: rest => total (output.append v) rest
  | .cleared v :: rest => total v rest
  | .returned v :: _ => .returned v
  | .abort failure :: _ => .abort failure

/-- A signal that leaves the list is what the list signals, whatever was there
before. -/
theorem total_of_unwinds {signals : List Signal} {output : Value} {signal : Signal}
    (h : total output signals = signal) (hunwinds : signal.Unwinds) (other : Value) :
    total other signals = signal := by
  induction signals generalizing output other with
  | nil =>
      subst h
      cases hunwinds
  | cons first rest ih =>
      cases first with
      | proceed => exact ih h other
      | append v => exact ih h (other.append v)
      | cleared v => exact h
      | returned v => exact h
      | abort failure => exact h

/-- Behind a signal that replaces the result, it does not matter what it was. -/
theorem total_of_cleared {signals : List Signal} (h : signals.any isCleared = true)
    (output other : Value) : total output signals = total other signals := by
  induction signals generalizing output other with
  | nil => cases h
  | cons first rest ih =>
      cases first with
      | proceed => exact ih h output other
      | append v => exact ih h (output.append v) (other.append v)
      | _ => rfl

/-- Signals that neither add to the result nor replace it. -/
theorem total_of_silent {signals : List Signal} {output v : Value}
    (hcleared : signals.any isCleared = false) (hadded : signals.any isAppend = false)
    (h : total output signals = .append v) : v = output := by
  induction signals with
  | nil => exact (Signal.append.inj h).symm
  | cons first rest ih =>
      cases first with
      | proceed => exact ih hcleared hadded h
      | append w => cases hadded
      | cleared w => cases hcleared
      | returned w => cases h
      | abort failure => cases h

/-- Signals that do not replace the result, behind one with more text in front and
another status: the text stays in front, and the status is kept if nothing is
added. -/
theorem total_of_not_cleared {signals : List Signal} {output v : Value}
    (hcleared : signals.any isCleared = false) (h : total output signals = .append v)
    (front : String) (status : Int) :
    total ⟨front ++ output.text, status⟩ signals =
      .append ⟨front ++ v.text, if signals.any isAppend then v.status else status⟩ := by
  induction signals generalizing output status with
  | nil =>
      obtain rfl := Signal.append.inj h
      rfl
  | cons first rest ih =>
      cases first with
      | proceed => exact ih hcleared h status
      | append w =>
          have hkept : rest.any isCleared = false := hcleared
          have hgoes : total (output.append w) rest = .append v := h
          have hrest := ih hkept hgoes w.status
          show total ⟨front ++ output.text ++ w.text, w.status⟩ rest =
            .append ⟨front ++ v.text, v.status⟩
          rw [String.append_assoc]
          by_cases hadded : rest.any isAppend = true
          · rw [if_pos hadded] at hrest
            exact hrest
          · rw [if_neg hadded] at hrest
            obtain rfl := total_of_silent hkept (Bool.eq_false_iff.2 hadded) hgoes
            exact hrest
      | cleared w => cases hcleared
      | returned w => cases h
      | abort failure => cases h

end Signal

/-- The result of two lists of statements, of which the second one has the result
`w` by itself and its statements have given these signals.  If one of them cleared
the result, it is `w`; if not, it is both texts, with the status of `w` if a value was
added to it. -/
def Value.followedBy (v w : Value) (signals : List Signal) : Value :=
  if signals.any Signal.isCleared then w
  else ⟨v.text ++ w.text, if signals.any Signal.isAppend then w.status else v.status⟩

theorem Signal.total_followedBy {signals : List Signal} {w : Value}
    (h : total Value.truthy signals = .append w) (v : Value) :
    total v signals = .append (v.followedBy w signals) := by
  unfold Value.followedBy
  by_cases hcleared : signals.any isCleared = true
  · rw [if_pos hcleared, total_of_cleared hcleared v Value.truthy, h]
  · rw [if_neg hcleared]
    have hfront := total_of_not_cleared (Bool.eq_false_iff.2 hcleared) h v.text v.status
    have hnothing : v.text ++ Value.truthy.text = v.text := String.append_empty
    rw [hnothing] at hfront
    exact hfront

/-- The state without its frames. -/
def State.frameless (s : State) : State := { s with stack := s.stack.sibling }

variable {H : Type}

namespace Evaluator

/-! ## Statements and their signals -/

section Statements

variable (host : Host H) (eval : Context H → Task → Run Signal) (ctx : Context H)

/-- The signals of the statements of a list, up to the first that leaves it. -/
def evalEach : List Node → Run (List Signal)
  | [] => pure []
  | node :: rest => do
    match ← evalStatement host eval ctx node with
    | .returned v => pure [.returned v]
    | .abort failure => pure [.abort failure]
    | signal => do
      let more ← evalEach rest
      pure (signal :: more)

/-- Statements are run, and then their signals are summed up. -/
theorem evalStatements_eq (output : Value) (executions : List Node) :
    evalStatements host eval ctx output executions = (do
      let signals ← evalEach host eval ctx executions
      pure (Signal.total output signals)) := by
  induction executions generalizing output with
  | nil => rfl
  | cons node rest ih =>
      rw [evalStatements, evalEach, bind_assoc]
      refine bind_congr fun signal => ?_
      cases signal with
      | proceed => simp only [ih, bind_assoc, pure_bind, Signal.total]
      | append v => simp only [ih, bind_assoc, pure_bind, Signal.total]
      | cleared v => simp only [ih, bind_assoc, pure_bind, Signal.total]
      | returned v => rfl
      | abort failure => rfl

/-- Two lists, one behind the other: the second goes on from the result of the
first. -/
theorem evalStatements_append (output : Value) (xs ys : List Node) :
    evalStatements host eval ctx output (xs ++ ys) = (do
      match ← evalStatements host eval ctx output xs with
      | .append v => evalStatements host eval ctx v ys
      | other => pure other) := by
  induction xs generalizing output with
  | nil => rfl
  | cons node rest ih =>
      rw [List.cons_append, evalStatements, evalStatements, bind_assoc]
      refine bind_congr fun signal => ?_
      cases signal with
      | proceed => exact ih output
      | append v => exact ih (output.append v)
      | cleared v => exact ih v
      | returned v => rfl
      | abort failure => rfl

end Statements

/-- The signals of the statements of a list, with this much fuel. -/
def evaluateEach (host : Host H) : Nat → Context H → List Node → Run (List Signal)
  | 0, _, _ => fun _ => .outOfFuel
  | fuel + 1, ctx, executions => evalEach host (evaluate host fuel) ctx executions

theorem evaluate_eq_total (host : Host H) (n : Nat) (ctx : Context H)
    (executions : List Node) :
    evaluate host n ctx (.statements executions) = (do
      let signals ← evaluateEach host n ctx executions
      pure (Signal.total Value.truthy signals)) := by
  cases n with
  | zero => rfl
  | succ n => exact evalStatements_eq host (evaluate host n) ctx Value.truthy executions

/-- Two lists, one behind the other: the statements of the second one are run, and
their signals are summed up behind the result of the first. -/
theorem evaluate_append (host : Host H) (n : Nat) (ctx : Context H) (xs ys : List Node) :
    evaluate host n ctx (.statements (xs ++ ys)) = (do
      match ← evaluate host n ctx (.statements xs) with
      | .append v => do
        let signals ← evaluateEach host n ctx ys
        pure (Signal.total v signals)
      | other => pure other) := by
  cases n with
  | zero => rfl
  | succ n =>
      show evalStatements host (evaluate host n) ctx Value.truthy (xs ++ ys) = _
      rw [evalStatements_append]
      apply bind_congr
      intro signal
      cases signal with
      | append v => exact evalStatements_eq host (evaluate host n) ctx v ys
      | _ => rfl

section Split

variable {host : Host H} {ctx : Context H} {n : Nat} {xs ys : List Node} {s t u : State}
  {signal : Signal} {v : Value}

theorem evaluate_done_of_le {k : Nat} (hnk : n ≤ k)
    (h : evaluate host n ctx (.statements xs) s = .done signal t) :
    evaluate host k ctx (.statements xs) s = .done signal t := by
  have hended : evaluate host n ctx (.statements xs) s ≠ .outOfFuel := by
    rw [h]
    exact fun hfuel => by cases hfuel
  rw [evaluate_mono hnk hended, h]

theorem evaluate_append_of_unwinds
    (hx : evaluate host n ctx (.statements xs) s = .done signal t)
    (hunwinds : signal.Unwinds) (ys : List Node) :
    evaluate host n ctx (.statements (xs ++ ys)) s = .done signal t := by
  rw [evaluate_append]
  apply Run.bind_eq_done.2
  refine ⟨signal, t, hx, ?_⟩
  cases hunwinds <;> rfl

theorem evaluate_append_of_append
    (hx : evaluate host n ctx (.statements xs) s = .done (.append v) t)
    (hy : evaluate host n ctx (.statements ys) t = .done signal u) :
    ∃ signals, evaluateEach host n ctx ys t = .done signals u ∧
      Signal.total Value.truthy signals = signal ∧
      evaluate host n ctx (.statements (xs ++ ys)) s =
        .done (Signal.total v signals) u := by
  rw [evaluate_eq_total] at hy
  obtain ⟨signals, u', heach, htotal⟩ := Run.bind_eq_done.1 hy
  cases htotal
  refine ⟨signals, heach, rfl, ?_⟩
  rw [evaluate_append]
  apply Run.bind_eq_done.2
  refine ⟨.append v, t, hx, ?_⟩
  apply Run.bind_eq_done.2
  exact ⟨signals, u, heach, rfl⟩

/-- Statements without frames leave none. -/
theorem frameless_of_done
    (h : evaluate host n ctx (.statements xs) s.frameless = .done signal t) :
    t.frameless = t := by
  cases n with
  | zero => cases h
  | succ n =>
      have hdepth : t.stack.depth = 0 := run_depth (a := .statements Value.truthy xs) h
      obtain ⟨⟨globals, frames⟩, depth, world⟩ := t
      obtain rfl : frames = [] := List.length_eq_zero_iff.1 hdepth
      rfl

theorem callDepth_of_done
    (h : evaluate host n ctx (.statements xs) s = .done signal t) :
    t.callDepth = s.callDepth := by
  cases n with
  | zero => cases h
  | succ n => exact callDepth_behind (w := .here) (b := .statements Value.truthy xs) h

end Split

end Evaluator

/-! ## Sessions -/

namespace Session

open Evaluator

/-- The state in which an execution of the session begins. -/
def start (session : Session H) : State :=
  { stack := { globals := session.globals }, world := session.world }

/-- How the execution of statements ends. -/
def outcome (host : Host H) (session : Session H) (executions : List Node) :
    Outcome Signal :=
  evaluate host standardFuel session.context (.statements executions) session.start

/-- The session behind an execution that has ended in this way. -/
def behind (session : Session H) {α : Type} : Outcome α → Session H
  | .done _ t => { session with globals := t.stack.globals, world := t.world }
  | .raised _ t => { session with globals := t.stack.globals, world := t.world }
  | .outOfFuel => session

theorem perform_snd {α : Type} (session : Session H) (body : Run α) :
    (session.perform body).2.1 = session.behind (body session.start) := by
  unfold perform start
  dsimp only
  cases body { stack := { globals := session.globals }, world := session.world } <;> rfl

theorem execute_snd (host : Host H) (session : Session H) (executions : List Node) :
    (session.execute host executions).2 =
      session.behind (session.outcome host executions) := by
  show (session.perform (Evaluator.execute host standardFuel session.context
    executions)).2.1 = _
  rw [perform_snd]
  show session.behind (Run.bind (evaluate host standardFuel session.context
    (.statements executions)) (fun signal => pure (topLevel signal)) session.start) = _
  unfold outcome Run.bind
  cases evaluate host standardFuel session.context (.statements executions)
    session.start <;> rfl

/-- The session behind lists of statements that are executed one after the
other. -/
def feed (host : Host H) (session : Session H) (chunks : List (List Node)) : Session H :=
  chunks.foldl (fun session chunk => (session.execute host chunk).2) session

/-- None of the lists, executed one after the other, ends with a return, an abort
or a fault. -/
def GoesOn (host : Host H) : Session H → List (List Node) → Prop
  | _, [] => True
  | session, chunk :: rest =>
    (∃ v t, session.outcome host chunk = .done (.append v) t) ∧
      GoesOn host (session.execute host chunk).2 rest

/-- Where the statements of a session have gone on to their end, the next execution
begins in the state that they have left. -/
theorem start_execute {host : Host H} {session : Session H} {xs : List Node} {v : Value}
    {t : State} (hx : session.outcome host xs = .done (.append v) t) :
    (session.execute host xs).2.start = t := by
  have hframeless : t.frameless = t := frameless_of_done (s := session.start) hx
  have hdepth : t.callDepth = 0 := callDepth_of_done hx
  rw [execute_snd, hx]
  obtain ⟨⟨globals, frames⟩, depth, world⟩ := t
  obtain rfl : depth = 0 := hdepth
  exact hframeless

/-- A session that executes a list and then another one, and one that executes both
at once. -/
theorem execute_append {host : Host H} {session : Session H} {xs ys : List Node}
    {v : Value} {t : State} (hx : session.outcome host xs = .done (.append v) t)
    (hend : session.outcome host (xs ++ ys) ≠ .outOfFuel) :
    (session.execute host xs).2.outcome host ys ≠ .outOfFuel ∧
      ((session.execute host xs).2.execute host ys).2 =
        (session.execute host (xs ++ ys)).2 := by
  have hstart := start_execute hx
  have hcontext : (session.execute host xs).2.context = session.context := by
    rw [execute_snd, hx]
    rfl
  have hbehind {α : Type} (o : Outcome α) (ho : o ≠ .outOfFuel) :
      (session.execute host xs).2.behind o = session.behind o := by
    rw [execute_snd, hx]
    cases o with
    | outOfFuel => exact absurd rfl ho
    | _ => rfl
  -- Both run the statements of the second list from the same state; only what they
  -- make of the signals differs.
  have hsecond : (session.execute host xs).2.outcome host ys =
      Run.bind (evaluateEach host standardFuel session.context ys)
        (fun signals => pure (Signal.total Value.truthy signals)) t := by
    unfold outcome
    rw [hcontext, hstart, evaluate_eq_total]
    rfl
  have hwhole : session.outcome host (xs ++ ys) =
      Run.bind (evaluateEach host standardFuel session.context ys)
        (fun signals => pure (Signal.total v signals)) t := by
    unfold outcome at hx ⊢
    rw [evaluate_append]
    show Run.bind _ _ session.start = _
    rw [Run.bind, hx]
    rfl
  rw [execute_snd host _ ys, execute_snd host _ (xs ++ ys), hsecond, hwhole]
  rw [hwhole] at hend
  unfold Run.bind at hend ⊢
  cases heach : evaluateEach host standardFuel session.context ys t with
  | outOfFuel =>
      rw [heach] at hend
      exact absurd rfl hend
  | done signals u => exact ⟨(fun h => by cases h), hbehind _ (fun h => by cases h)⟩
  | raised fault u => exact ⟨(fun h => by cases h), hbehind _ (fun h => by cases h)⟩

/-- A session that is fed list by list comes to the same as one that executes all
of them at once, if none but the last list stops it. -/
theorem feed_eq (host : Host H) {session : Session H} {chunks : List (List Node)}
    {last : List Node} (hgo : session.GoesOn host chunks)
    (hend : session.outcome host (chunks.flatten ++ last) ≠ .outOfFuel) :
    session.feed host (chunks ++ [last]) =
      (session.execute host (chunks.flatten ++ last)).2 := by
  induction chunks generalizing session with
  | nil => rfl
  | cons chunk rest ih =>
      obtain ⟨⟨v, t, hchunk⟩, hrest⟩ := hgo
      rw [List.flatten_cons, List.append_assoc] at hend ⊢
      obtain ⟨hmore, hsame⟩ := execute_append hchunk hend
      rw [← hsame]
      exact ih hrest hmore

end Session

namespace Evaluator

/-- Executions can be split at any point.  From a state without frames, let `xs`
come first and `ys` second, each with fuel enough for it.

If `xs` ends with a return or an abort, then so do both together, in the same
state, which is that of the globals and of the world with all effects on it.

If `xs` has a result, then `ys` goes on from the globals and the world that it
has left, without frames, and the two together end in the state in which `ys` ends.
They end with the return or the abort of `ys`, if that is how it ends.  If it has a
result, they have the result of `xs` followed by that of `ys`: only the latter, if
a statement of `ys` cleared the result; otherwise both texts, with the status of
the latter if a statement of `ys` added a value, and else that of the former.

A session that is fed list by list, where none but the last one stops it, is in
the end the same, with the same globals, as one that executes all of them at
once. -/
theorem execution_splits (host : Host H) (ctx : Context H) (xs ys : List Node)
    (s : State) :
    (∀ n k signal t, n ≤ k →
      evaluate host n ctx (.statements xs) s.frameless = .done signal t → signal.Unwinds →
        evaluate host k ctx (.statements (xs ++ ys)) s.frameless = .done signal t) ∧
    (∀ n m k v t signal u, n ≤ k → m ≤ k →
      evaluate host n ctx (.statements xs) s.frameless = .done (.append v) t →
      evaluate host m ctx (.statements ys) t.frameless = .done signal u →
        (signal.Unwinds →
          evaluate host k ctx (.statements (xs ++ ys)) s.frameless = .done signal u) ∧
        ∀ w, signal = .append w →
          ∃ signals, evaluateEach host k ctx ys t.frameless = .done signals u ∧
            evaluate host k ctx (.statements (xs ++ ys)) s.frameless =
              .done (.append (v.followedBy w signals)) u) ∧
    ∀ (session : Session H) chunks last, session.GoesOn host chunks →
      session.outcome host (chunks.flatten ++ last) ≠ .outOfFuel →
        session.feed host (chunks ++ [last]) =
          (session.execute host (chunks.flatten ++ last)).2 := by
  refine ⟨?unwinds, ?goesOn, ?session⟩
  case unwinds =>
    intro n k signal t hnk hx hunwinds
    exact evaluate_append_of_unwinds (evaluate_done_of_le hnk hx) hunwinds ys
  case goesOn =>
    intro n m k v t signal u hnk hmk hx hy
    have hframeless := frameless_of_done hx
    rw [hframeless] at hy ⊢
    obtain ⟨signals, heach, htotal, hwhole⟩ :=
      evaluate_append_of_append (evaluate_done_of_le hnk hx) (evaluate_done_of_le hmk hy)
    constructor
    · intro hunwinds
      rw [hwhole, Signal.total_of_unwinds htotal hunwinds v]
    · rintro w rfl
      refine ⟨signals, heach, ?_⟩
      rw [hwhole, Signal.total_followedBy htotal v]
  case session =>
    intro session chunks last hgo hend
    exact Session.feed_eq host hgo hend

/-- Functions from outside that answer with a value. -/
def answering : Host Value := ⟨fun v _ _ world => (.value v, world)⟩

/-- One of them. -/
def answers : Registry Value := ⟨[("a", [⟨[], .host ⟨"a", 3⟩, none⟩])]⟩

/-- A call adds a value, and the assignment behind it adds nothing, so the status
is that of the call.  A return leaves out what stands behind it.  A session that
is fed the call and the assignment ends like one that executes both at once. -/
theorem execution_splits_kept_status :
    let call : Node := .call "a" [] none
    let assign : Node := .assign "x" (.block [call] none) none
    let leave : Node := .returnWith .absent none
    let session : Session Value := { registry := answers }
    (∃ t u, evaluate answering 1 ⟨answers, 1000⟩ (.statements [call]) {} =
        .done (.append ⟨"a", 3⟩) t ∧
      evaluate answering 2 ⟨answers, 1000⟩ (.statements [assign]) t =
        .done (.append ⟨"", 0⟩) u ∧
      evaluate answering 7 ⟨answers, 1000⟩ (.statements [call, assign]) {} =
        .done (.append ⟨"a", 3⟩) u) ∧
    (∃ t, evaluate answering 9 ⟨answers, 1000⟩ (.statements [leave, call]) {} =
      .done (.returned ⟨"", 0⟩) t) ∧
    session.feed answering [[call], [assign]] =
      (session.execute answering [call, assign]).2 := by
  intro call assign leave session
  have hparts : ∃ t u, evaluate answering 1 ⟨answers, 1000⟩ (.statements [call]) {} =
        .done (.append ⟨"a", 3⟩) t ∧
      evaluate answering 2 ⟨answers, 1000⟩ (.statements [assign]) t.frameless =
        .done (.append ⟨"", 0⟩) u ∧
      evaluateEach answering 7 ⟨answers, 1000⟩ [assign] t.frameless =
        .done [.proceed] u := ⟨_, _, rfl, rfl, rfl⟩
  obtain ⟨t, u, hcall, hassign, heach⟩ := hparts
  have hsplit := execution_splits answering ⟨answers, 1000⟩ [call] [assign] {}
  obtain ⟨signals, hsignals, hboth⟩ :=
    (hsplit.2.1 1 2 7 _ t _ u (by decide) (by decide) hcall hassign).2 ⟨"", 0⟩ rfl
  rw [heach] at hsignals
  cases hsignals
  have hvalue : Value.followedBy ⟨"a", 3⟩ ⟨"", 0⟩ [.proceed] = ⟨"a", 3⟩ := by decide
  rw [hvalue] at hboth
  have hleave : ∃ t, evaluate answering 1 ⟨answers, 1000⟩ (.statements [leave]) {} =
      .done (.returned ⟨"", 0⟩) t := ⟨_, rfl⟩
  obtain ⟨v, hv⟩ := hleave
  have hreturned := (execution_splits answering ⟨answers, 1000⟩ [leave] [call] {}).1
    1 9 _ v (by decide) hv (.returned _)
  have hgo : session.GoesOn answering [[call]] :=
    ⟨⟨_, t, evaluate_done_of_le (by decide) hcall⟩, trivial⟩
  have hend : session.outcome answering [call, assign] =
      .done (.append ⟨"a", 3⟩) u := evaluate_done_of_le (by decide) hboth
  have hfed := hsplit.2.2 session [[call]] [assign] hgo (by
    show session.outcome answering [call, assign] ≠ .outOfFuel
    rw [hend]
    exact fun h => by cases h)
  have hframeless : t.frameless = t := frameless_of_done (s := {}) hcall
  rw [hframeless] at hassign
  exact ⟨⟨t, u, hcall, hassign, hboth⟩, ⟨v, hreturned⟩, hfed⟩

end Evaluator

end TextShell
