import TextShell.Proofs.Eval.Step

/-!
# Which signals there are

A value slot is left with a value, a return or an abort, whatever node stands in
it.  `Activity.Signals` says of every activity what it may signal: only a
statement may proceed or clear, and only a call of a function stops a return.
Each step keeps to this, so every run does.

It follows where signals can be met.  A clear is seen by a list of statements
only, and it is that of a statement in the list itself; a return that leaves a
call is that of an argument; and the top level knows every signal that it
meets.

## Main results

* `next_meets_signals` — every step signals what its activity may signal.
* `run_signals` — so does every run.
* `evalCall_returned` — where the return of a call comes from.
-/

namespace TextShell

namespace Signal

/-- The signals that leave a value slot. -/
inductive OfValue : Signal → Prop
  | append (v : Value) : OfValue (.append v)
  | returned (v : Value) : OfValue (.returned v)
  | abort (failure : Failure) : OfValue (.abort failure)

/-- The signals of a function that was called. -/
inductive OfCall : Signal → Prop
  | append (v : Value) : OfCall (.append v)
  | abort (failure : Failure) : OfCall (.abort failure)

theorem OfCall.ofValue {signal : Signal} (h : signal.OfCall) : signal.OfValue := by
  cases h with
  | append v => exact .append v
  | abort failure => exact .abort failure

/-- The signals of a statement. -/
inductive OfStatement (node : Node) : Signal → Prop
  | ofValue {signal : Signal} (h : signal.OfValue) : OfStatement node signal
  | effect (h : (node.isBlock || node.isControl) = true) :
      OfStatement node .proceed
  | assigned {target : String} {held : Node} {loc : Option Loc}
      (h : node = .assign target held loc) : OfStatement node .proceed
  | cleared {held : Node} {loc : Option Loc} (h : node = .clearWith held loc)
      (v : Value) : OfStatement node (.cleared v)

theorem unwind_ofCall {signal : Signal} (h : signal.OfValue) :
    (Evaluator.unwind signal).OfCall := by
  cases h with
  | append v => exact .append v
  | returned v => exact .append v
  | abort failure => exact .abort failure

theorem propagate_eq {signal : Signal} (h : signal.OfValue) :
    signal.propagate = signal := by
  cases h <;> rfl

end Signal

/-- Every answer of the run is a signal of this kind. -/
def Run.Signals (x : Run Signal) (allowed : Signal → Prop) : Prop :=
  ∀ s signal t, x s = .done signal t → allowed signal

namespace Evaluator

variable {H : Type}

open Signal (OfValue OfCall OfStatement)

/-- What an activity may signal. -/
def Activity.Signals : Activity H → Signal → Prop
  | .finished signal => fun answer => answer = signal
  | .statement node => OfStatement node
  | .store _ _ => fun answer => answer = .proceed
  | .call _ _ _ [] => OfCall
  | .host .. => OfCall
  | .script .. => OfCall
  | _ => OfValue

/-! ## Steps that evaluate nothing -/

/-- A template has a value, unless a variable is not declared. -/
theorem expandPieces_cases (stack : ScopeStack) (output : Value)
    (pieces : List (RegionKind × String)) :
    (∃ v, expandPieces stack output pieces = .append v) ∨
      ∃ name, expandPieces stack output pieces =
        .abort { error := .undeclaredVariable name } := by
  induction pieces generalizing output with
  | nil => exact .inl ⟨output, rfl⟩
  | cons piece rest ih =>
      obtain ⟨kind, text⟩ := piece
      cases kind with
      | literal => exact ih _
      | «variable» =>
          unfold expandPieces
          split
          · exact ih _
          · exact .inr ⟨text, rfl⟩

theorem signals_pure {signal : Signal} {allowed : Signal → Prop}
    (h : allowed signal) : (pure signal : Run Signal).Signals allowed := by
  intro s answer t hrun
  cases hrun
  exact h

theorem signals_raise (fault : Fault) (allowed : Signal → Prop) :
    (Run.raise fault : Run Signal).Signals allowed := by
  intro s answer t hrun
  cases hrun

theorem signals_bind {α : Type} {x : Run α} {f : α → Run Signal}
    {allowed : Signal → Prop} (h : ∀ a, (f a).Signals allowed) :
    (x >>= f).Signals allowed := by
  intro s answer t hrun
  obtain ⟨a, u, -, hf⟩ := Run.bind_eq_done.1 hrun
  exact h a u answer t hf

/-- A source that is evaluated has a value, whatever comes of it. -/
theorem signals_evalSource (eval : Context H → Task → Run Signal)
    (ctx : Context H) (source : String) :
    (evalSource eval ctx source).Signals fun signal => ∃ v, signal = .append v := by
  unfold evalSource
  split
  · exact signals_pure ⟨_, rfl⟩
  · refine signals_bind fun _ => ?_
    split
    · exact signals_pure ⟨_, rfl⟩
    · split
      · exact signals_pure ⟨_, rfl⟩
      · refine signals_bind fun _ => signals_bind fun signal => ?_
        split <;> exact signals_pure ⟨_, rfl⟩

/-- What a host function comes to, by its reply. -/
theorem signals_callHost {host : Host H} {eval : Context H → Task → Run Signal}
    {ctx : Context H} {name : String} {loc : Option Loc} {entry : H}
    {arguments : List Value} {allowed : Signal → Prop}
    (happend : ∀ v, allowed (.append v))
    (herror : ∀ world e,
      (host.call entry ctx.registry arguments world).1 = .error e →
        allowed (.abort ⟨e, loc⟩))
    (hforeign : ∀ world kind,
      (host.call entry ctx.registry arguments world).1 = .foreign kind →
        allowed (.abort
          ⟨.internal ("host function `" ++ name ++ "` returned " ++ kind), loc⟩)) :
    (callHost host eval ctx name loc entry arguments).Signals allowed := by
  intro s signal t hrun
  unfold callHost at hrun
  cases hreply : host.call entry ctx.registry arguments s.world with
  | mk reply world =>
      simp only [hreply] at hrun
      have hfst : (host.call entry ctx.registry arguments s.world).1 = reply := by
        rw [hreply]
      cases reply with
      | value v =>
          cases hrun
          exact happend v
      | error e =>
          cases hrun
          exact herror s.world e hfst
      | fault fault => cases hrun
      | foreign kind =>
          cases hrun
          exact hforeign s.world kind hfst
      | evaluate source =>
          obtain ⟨v, rfl⟩ := signals_evalSource _ _ _ _ _ _ hrun
          exact happend v

/-! ## Every step keeps to its signals -/

/-- The contract of signals, which every activity is under. -/
abbrev Step.Signals (allowed : Signal → Prop) (s : State) (step : Step H) : Prop :=
  step.Meets (fun _ => True) Activity.Signals allowed s

/-- The value of a part in a value slot, and any other signal as it is. -/
theorem signals_onValue {w : Surrounding} {a : Activity H}
    {resume : Value → Activity H} {allowed : Signal → Prop} {s : State}
    (ha : ∀ first, a.Signals first → first.OfValue)
    (hallowed : ∀ signal, signal.OfValue → allowed signal)
    (hresume : ∀ v signal, (resume v).Signals signal → allowed signal) :
    (Step.part w a (Activity.onValue resume)).Signals allowed s := by
  refine ⟨trivial, fun first hfirst => ⟨trivial, fun signal hsignal => ?_⟩⟩
  cases ha first hfirst with
  | append v => exact hresume v signal hsignal
  | returned v =>
      obtain rfl : signal = .returned v := hsignal
      exact hallowed _ (.returned v)
  | abort failure =>
      obtain rfl : signal = .abort failure := hsignal
      exact hallowed _ (.abort failure)

/-- A part whose signal is the answer. -/
theorem signals_finished {w : Surrounding} {a : Activity H} {f : Signal → Signal}
    {allowed : Signal → Prop} {s : State}
    (h : ∀ first, a.Signals first → allowed (f first)) :
    (Step.part w a fun signal => .finished (f signal)).Signals allowed s := by
  refine ⟨trivial, fun first hfirst => ⟨trivial, fun signal hsignal => ?_⟩⟩
  obtain rfl : signal = f first := hsignal
  exact h first hfirst

theorem signals_inside (count : Nat) (node : Node) {signal : Signal}
    (h : (Activity.inside count node : Activity H).Signals signal) :
    signal.OfValue := by
  cases node with
  | template t => exact h
  | block executions loc => exact h
  | forEach target list body separator loc => exact h
  | ifThen condition body loc => exact h
  | ifElse condition trueBody falseBody loc => exact h
  | whileLoop condition body loc => exact h
  | bareControl loc => exact h
  | _ =>
      obtain rfl : signal = _ := h
      exact .abort _

theorem signals_nextControl (count : Nat) (node : Node) (s : State) :
    (nextControl count node : Step H).Signals OfValue s := by
  cases node with
  | forEach target list body separator loc =>
      exact signals_finished (f := id) fun _ h => h
  | ifThen condition body loc =>
      refine signals_onValue (fun _ h => h) (fun _ h => h) fun v signal h => ?_
      split at h
      · exact h
      · obtain rfl : signal = _ := h
        exact .append _
  | ifElse condition trueBody falseBody loc =>
      exact signals_onValue (fun _ h => h) (fun _ h => h) fun v signal h => h
  | whileLoop condition body loc => exact ⟨trivial, fun _ h => h⟩
  | _ => exact signals_pure (.abort _) s

theorem signals_nextOptional {wrap : Value → Signal} {allowed : Signal → Prop}
    (hallowed : ∀ signal, signal.OfValue → allowed signal)
    (hwrap : ∀ v, allowed (wrap v)) (node : Node) (s : State) :
    (nextOptional wrap node : Step H).Signals allowed s := by
  unfold nextOptional
  split
  · exact signals_pure (hwrap _) s
  · refine signals_onValue (fun _ h => h) hallowed fun v signal h => ?_
    obtain rfl : signal = wrap v := h
    exact hwrap v

theorem signals_nextOpen (node : Node) (s : State) :
    (nextOpen node : Step H).Signals (OfStatement node) s := by
  cases node with
  | assign target held loc =>
      refine signals_onValue (fun _ h => h) (fun _ => .ofValue) fun v signal h => ?_
      obtain rfl : signal = .proceed := h
      exact .assigned rfl
  | returnWith held loc =>
      exact signals_nextOptional (fun _ => .ofValue)
        (fun v => .ofValue (.returned v)) held s
  | clearWith held loc =>
      exact signals_nextOptional (fun _ => .ofValue) (.cleared rfl) held s
  | call name nodes loc =>
      refine ⟨trivial, fun signal h => ?_⟩
      cases nodes with
      | nil => exact .ofValue (OfCall.ofValue h)
      | cons node rest => exact .ofValue h
  | _ => exact signals_pure (.ofValue (.abort _)) s

theorem signals_nextInvoke (ctx : Context H) (name : String) (loc : Option Loc)
    (arguments : List Value) (s : State) :
    (nextInvoke ctx name loc arguments).Signals OfCall s := by
  unfold nextInvoke
  split
  · exact signals_pure (.abort _) s
  · dsimp only
    split
    · exact ⟨trivial, fun _ h => h⟩
    · split
      · exact ⟨trivial, fun _ h => h⟩
      · exact signals_bind (fun _ => signals_raise _ _) s

theorem signals_nextScript (ctx : Context H) (loc : Option Loc)
    (params : List Param) (body : Node) (arguments : List Value) (s : State) :
    (nextScript ctx loc params body arguments s).Signals OfCall s := by
  unfold nextScript
  split
  · exact signals_pure (.abort _) s
  · split
    · exact signals_raise _ _ s
    · exact signals_finished fun _ h => Signal.unwind_ofCall h

/-- Every step signals what its activity may signal. -/
theorem next_meets_signals (host : Host H) (ctx : Context H) (fuel : Nat)
    (a : Activity H) (s : State) :
    (next host fuel ctx a s).Signals a.Signals s := by
  cases a with
  | finished signal =>
      intro answer u h
      cases h
      rfl
  | value node => exact ⟨trivial, fun _ => signals_inside _ node⟩
  | template t =>
      intro signal u hrun
      cases hrun
      rcases expandPieces_cases s.stack Value.truthy t.pieces with ⟨v, h⟩ | ⟨name, h⟩
      · rw [h]
        exact .append v
      · rw [h]
        exact .abort _
  | block executions => exact signals_finished (f := id) fun _ h => h
  | control count node => exact signals_nextControl count node s
  | statement node =>
      rw [next]
      split
      · next heffect =>
        refine signals_finished fun first h => ?_
        cases h with
        | append v => exact .effect heffect
        | returned v => exact .ofValue (.returned v)
        | abort failure => exact .ofValue (.abort failure)
      · exact signals_nextOpen node s
  | statements output executions =>
      cases executions with
      | nil => exact signals_pure (.append output) s
      | cons node rest =>
          refine ⟨trivial, fun first hfirst => ⟨trivial, fun signal hsignal => ?_⟩⟩
          cases first with
          | returned v =>
              obtain rfl : signal = .returned v := hsignal
              exact .returned v
          | abort failure =>
              obtain rfl : signal = .abort failure := hsignal
              exact .abort failure
          | _ => exact hsignal
  | store target v => exact ⟨trivial, fun _ h => h⟩
  | call name loc values nodes =>
      cases nodes with
      | nil => exact signals_nextInvoke ctx name loc values s
      | cons node rest =>
          refine signals_onValue (fun _ h => h) (fun _ h => h) fun v signal h => ?_
          cases rest with
          | nil => exact OfCall.ofValue h
          | cons node rest => exact h
  | host name loc entry arguments =>
      exact signals_callHost (fun v => .append v) (fun _ _ _ => .abort _)
        (fun _ _ _ => .abort _) s
  | script loc params body arguments => exact signals_nextScript ..
  | loop target list body separator =>
      refine signals_onValue (fun _ h => h) (fun _ h => h) fun items signal h => ?_
      split at h <;> exact h
  | separated target body separator items =>
      exact signals_onValue (fun _ h => h) (fun _ h => h) fun _ _ h => h
  | pieces target body output rest =>
      cases rest with
      | nil => exact signals_pure (.append output) s
      | cons text rest =>
          exact signals_onValue (fun _ h => h) (fun _ h => h) fun _ _ h => h
  | piece target text body => exact ⟨trivial, fun _ h => h⟩
  | rounds condition body count output =>
      cases count with
      | zero =>
          intro signal u h
          cases h
      | succ count =>
          refine signals_onValue (fun _ h => h) (fun _ h => h) fun v signal h => ?_
          split at h
          · exact h
          · obtain rfl : signal = _ := h
            exact .append output
  | round condition body count output =>
      exact signals_onValue (fun _ h => h) (fun _ h => h) fun _ _ h => h

/-- Every run signals what its activity may signal. -/
theorem run_signals {host : Host H} {ctx : Context H} {fuel : Nat}
    {a : Activity H} {s t : State} {signal : Signal}
    (h : a.run host fuel ctx s = .done signal t) : a.Signals signal := by
  have hmeets (fuel : Nat) (a : Activity H) (s : State) (_ : True) :=
    next_meets_signals host ctx fuel a s
  exact signals_of_meets hmeets trivial h

/-! ## Calls and their arguments -/

/-- The argument that has left the call. -/
theorem evalArguments_error {eval : Context H → Task → Run Signal}
    {ctx : Context H} {nodes : List Node} {s t : State} {signal : Signal}
    (h : evalArguments eval ctx nodes s = .done (.error signal) t) :
    ∃ before node behind values u first, nodes = before ++ node :: behind ∧
      evalArguments eval ctx before s = .done (.ok values) u ∧
      eval ctx (.value node) u = .done first t ∧ signal = first.propagate := by
  induction nodes generalizing s with
  | nil => cases h
  | cons node rest ih =>
      obtain ⟨first, u, hfirst, hrest⟩ := Run.bind_eq_done.1 h
      cases first with
      | append v =>
          obtain ⟨answer, u', hanswer, hpure⟩ := Run.bind_eq_done.1 hrest
          cases answer with
          | ok values => cases hpure
          | error other =>
              cases hpure
              obtain ⟨before, node', behind, values, w, first, rfl, hbefore, hnode, hp⟩ :=
                ih hanswer
              refine ⟨node :: before, node', behind, v :: values, w, first, rfl, ?_,
                hnode, hp⟩
              refine Run.bind_eq_done.2 ⟨_, _, hfirst, ?_⟩
              exact Run.bind_eq_done.2 ⟨_, _, hbefore, rfl⟩
      | _ =>
          cases hrest
          exact ⟨[], node, rest, [], s, _, rfl, rfl, hfirst, rfl⟩

/-- A return that leaves a call is that of an argument. -/
theorem evalCall_returned {host : Host H} {fuel : Nat} {ctx : Context H}
    {name : String} {nodes : List Node} {loc : Option Loc} {s t : State} {v : Value}
    (h : evalCall host (evaluate host fuel) ctx name nodes loc s =
      .done (.returned v) t) :
    ∃ before node behind values u, nodes = before ++ node :: behind ∧
      evalArguments (evaluate host fuel) ctx before s = .done (.ok values) u ∧
      evaluate host fuel ctx (.value node) u = .done (.returned v) t := by
  obtain ⟨answer, u, harguments, hrest⟩ := Run.bind_eq_done.1 h
  cases answer with
  | ok arguments =>
      -- The function itself is a call without arguments to evaluate.
      have hrun : (Activity.call name loc arguments []).run host fuel ctx u =
          .done (.returned v) t := by
        rw [run_eq_step, next, run_nextInvoke]
        exact hrest
      have hsignals : OfCall (.returned v) := run_signals hrun
      cases hsignals
  | error signal =>
      obtain ⟨before, node, behind, values, u', first, hnodes, hbefore, hnode, hfirst⟩ :=
        evalArguments_error harguments
      cases hrest
      have hvalue : first.OfValue := run_signals (a := .value node) hnode
      rw [Signal.propagate_eq hvalue] at hfirst
      exact ⟨before, node, behind, values, u', hnodes, hbefore, hfirst ▸ hnode⟩

/-! ## Statements -/

section Statements

variable {host : Host H} {fuel : Nat} {ctx : Context H}

/-- An open statement that proceeds is an assignment, and one that clears is a
`clear`. -/
theorem signals_evalOpen (node : Node) :
    (evalOpen host (evaluate host fuel) ctx node).Signals fun signal =>
      (signal = .proceed → ∃ target held loc, node = .assign target held loc) ∧
        ∀ v, signal = .cleared v → ∃ held loc, node = .clearWith held loc := by
  intro s signal t hrun
  by_cases heffect : (node.isBlock || node.isControl) = true
  · have hconfused : evalOpen host (evaluate host fuel) ctx node =
        confused "unknown statement" node := by
      unfold evalOpen
      split
      · cases heffect
      · cases heffect
      · cases heffect
      · cases heffect
      · rfl
    rw [hconfused] at hrun
    cases hrun
    constructor
    · intro h
      cases h
    · intro v h
      cases h
  · have hstatement : (Activity.statement node).run host fuel ctx s = .done signal t := by
      rw [Activity.run, evalStatement_eq, if_neg heffect]
      exact hrun
    have hsignals : OfStatement node signal := run_signals hstatement
    constructor
    · rintro rfl
      cases hsignals with
      | ofValue h => cases h
      | effect h => exact absurd h heffect
      | assigned h => exact ⟨_, _, _, h⟩
    · rintro v rfl
      cases hsignals with
      | ofValue h => cases h
      | cleared h => exact ⟨_, _, h⟩

/-- A statement that clears is a `clear` itself, and what it clears is the
result of the list it stands in. -/
theorem evalStatements_of_cleared {node : Node} {s t : State} {v : Value}
    (h : evalStatement host (evaluate host fuel) ctx node s = .done (.cleared v) t)
    (output : Value) (rest : List Node) :
    (∃ held loc, node = .clearWith held loc) ∧
      evalStatements host (evaluate host fuel) ctx output (node :: rest) s =
        evalStatements host (evaluate host fuel) ctx v rest t := by
  have hsignals : OfStatement node (.cleared v) :=
    run_signals (a := .statement node) h
  constructor
  · cases hsignals with
    | ofValue h => cases h
    | cleared h => exact ⟨_, _, h⟩
  · rw [evalStatements]
    change Run.bind _ _ s = _
    rw [Run.bind, h]

/-- Statements at the top level fail only if one of them aborts. -/
theorem execute_error {executions : List Node} {s t : State} {failure : Failure}
    (h : execute host fuel ctx executions s = .done (.error failure) t) :
    evaluate host fuel ctx (.statements executions) s = .done (.abort failure) t := by
  obtain ⟨signal, u, hrun, hlevel⟩ := Run.bind_eq_done.1 h
  obtain ⟨hfailure, rfl⟩ := Outcome.done.inj hlevel
  cases fuel with
  | zero => cases hrun
  | succ fuel =>
      have hsignals : signal.OfValue :=
        run_signals (a := .statements Value.truthy executions) hrun
      cases hsignals with
      | append v => cases hfailure
      | returned v => cases hfailure
      | abort failure' =>
          cases hfailure
          exact hrun

end Statements

end Evaluator

end TextShell
