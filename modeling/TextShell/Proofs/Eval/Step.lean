import TextShell.Proofs.Eval.Discipline

/-!
# Evaluation in steps

What the evaluator is in the middle of is an `Activity`: a node in a value
slot, the statements that are left of a list behind the result so far, the
arguments that are left of a call, the pieces or the rounds that are left of a
loop.  The next step of an activity is one of four things.  It ends, without
evaluating any node; it opens a node, which costs fuel; it changes the state
and goes on as another activity; or it evaluates a part of itself and goes on
as an activity that depends on the signal of the part.

`run_eq_step` says that these steps are what the evaluator does, so that what is
evaluated, in which order and from which state, can be read off `next`.  What
holds of evaluation then follows from what holds of one step.

## Main results

* `run_eq_step` — an activity does what its next step says.
* `next_form` — the forms that a step may have.
* `Activity.induction` — induction over the steps of evaluation.
* `run_induction` — induction over a run that has ended.
* `signals_of_meets` — a contract that every step meets holds of every run.
-/

namespace TextShell

namespace Run

theorem bind_pure_eq {α : Type} (x : Run α) : Run.bind x Run.pure = x := by
  funext s
  unfold Run.bind
  cases x s <;> rfl

theorem bind_bind {α β γ : Type} (x : Run α) (f : α → Run β) (g : β → Run γ) :
    Run.bind (Run.bind x f) g = Run.bind x fun a => Run.bind (f a) g := by
  funext s
  unfold Run.bind
  cases x s <;> rfl

instance : LawfulMonad Run :=
  LawfulMonad.mk' Run (fun x => bind_pure_eq x) (fun _ _ => rfl) bind_bind

/-- An answer of two runs is one of the second, behind one of the first. -/
theorem bind_eq_done {α β : Type} {x : Run α} {f : α → Run β} {s t : State} {b : β} :
    (x >>= f) s = .done b t ↔ ∃ a u, x s = .done a u ∧ f a u = .done b t := by
  change Run.bind x f s = _ ↔ _
  unfold Run.bind
  cases x s <;> simp

theorem within_eq_done {α : Type} {enter : State → State}
    {leave : State → State → State} {x : Run α} {s t : State} {a : α} :
    Run.within enter leave x s = .done a t ↔
      ∃ u, x (enter s) = .done a u ∧ leave s u = t := by
  unfold Run.within
  cases x (enter s) <;> simp [and_assoc]

end Run

/-- What a part of an evaluation is run in. -/
inductive Surrounding where
  /-- The scopes as they are. -/
  | here
  /-- A frame of its own. -/
  | frame
  /-- The stack of a call, whose only frame binds its parameters. -/
  | call (bound : Scope)

namespace Surrounding

/-- The state in which the part begins. -/
def enter : Surrounding → State → State
  | .here, s => s
  | .frame, s => { s with stack := s.stack.push }
  | .call bound, s =>
    { s with
      stack := { s.stack.sibling with frames := [bound] }
      callDepth := s.callDepth + 1 }

/-- The state behind a part that was entered from `s` and has ended in `t`. -/
def leave : Surrounding → State → State → State
  | .here, _, t => t
  | .frame, _, t => { t with stack := { t.stack with frames := t.stack.frames.tail } }
  | .call _, s, t =>
    { t with
      stack := { t.stack with frames := s.stack.frames }
      callDepth := t.callDepth - 1 }

/-- Runs a part. -/
def around {α : Type} (w : Surrounding) (x : Run α) : Run α :=
  Run.within w.enter w.leave x

@[simp] theorem around_here {α : Type} (x : Run α) : around .here x = x := by
  funext s
  simp only [around, Run.within, enter, leave]
  cases x s <;> rfl

@[simp] theorem around_frame {α : Type} (x : Run α) :
    around .frame x = Run.inFrame x := rfl

@[simp] theorem around_call {α : Type} (bound : Scope) (x : Run α) :
    around (.call bound) x = Run.called bound x := rfl

end Surrounding

namespace Evaluator

/-- What the evaluator is in the middle of. -/
inductive Activity (H : Type) where
  /-- Nothing is left but to answer. -/
  | finished (signal : Signal)
  /-- A node in a slot that wants a value. -/
  | value (node : Node)
  | template (t : Template)
  | block (executions : List Node)
  /-- A control statement, with at most this many rounds of a loop. -/
  | control (count : Nat) (node : Node)
  | statement (node : Node)
  /-- The statements that are left, behind the result so far. -/
  | statements (output : Value) (executions : List Node)
  /-- An assignment whose value is known. -/
  | store (target : String) (v : Value)
  /-- A call with the arguments that are known and the nodes that are left. -/
  | call (name : String) (loc : Option Loc) (values : List Value) (nodes : List Node)
  | host (name : String) (loc : Option Loc) (entry : H) (arguments : List Value)
  | script (loc : Option Loc) (params : List Param) (body : Node) (arguments : List Value)
  /-- A loop over pieces, inside its frame. -/
  | loop (target : String) (list body separator : Node)
  /-- A loop over pieces whose list is known, but not its separator. -/
  | separated (target : String) (body separator : Node) (items : Value)
  /-- The pieces that are left, behind the result so far. -/
  | pieces (target : String) (body : Node) (output : Value) (rest : List String)
  /-- One piece, inside its frame. -/
  | piece (target : String) (text : String) (body : Node)
  /-- The rounds of a loop, at most `count`, behind the result so far. -/
  | rounds (condition body : Node) (count : Nat) (output : Value)
  /-- The body of a loop whose condition holds, and the rounds behind it. -/
  | round (condition body : Node) (count : Nat) (output : Value)

variable {H : Type}

/-- A call whose arguments are known. -/
def invoke (host : Host H) (eval : Context H → Task → Run Signal) (ctx : Context H)
    (name : String) (loc : Option Loc) (arguments : List Value) : Run Signal :=
  match ctx.registry.resolve name arguments.length with
  | .error e => pure (.abort ⟨e, loc⟩)
  | .ok overload => do
    Run.change fun s =>
      { s with
        world := s.world.note (callLine name arguments.length s.callDepth overload.isHost) }
    match overload.body with
    | .host entry => callHost host eval ctx name loc entry arguments
    | .script tree =>
      if tree.isBlock then callScript eval ctx loc overload.params tree arguments
      else Run.raise (.notCallable tree.kind)

namespace Activity

/-- What the evaluator does. -/
def run (host : Host H) (fuel : Nat) (ctx : Context H) : Activity H → Run Signal
  | .finished signal => pure signal
  | .value node => evaluate host fuel ctx (.value node)
  | .template t => evalTemplate t
  | .block executions => evalBlock host (evaluate host fuel) ctx executions
  | .control count node => evalControl (evaluate host fuel) ctx count node
  | .statement node => evalStatement host (evaluate host fuel) ctx node
  | .statements output executions =>
    evalStatements host (evaluate host fuel) ctx output executions
  | .store target v => do
    Run.change fun s => { s with stack := s.stack.set target v }
    pure .proceed
  | .call name loc values nodes => do
    match ← evalArguments (evaluate host fuel) ctx nodes with
    | .error signal => pure signal
    | .ok more => invoke host (evaluate host fuel) ctx name loc (values ++ more)
  | .host name loc entry arguments =>
    callHost host (evaluate host fuel) ctx name loc entry arguments
  | .script loc params body arguments =>
    callScript (evaluate host fuel) ctx loc params body arguments
  | .loop target list body separator => do
    let signal ← evaluate host fuel ctx (.value list)
    withValue signal fun items =>
      if separator.isAbsent then
        eachPiece (evaluate host fuel) ctx target body Value.truthy items.split
      else do
        let signal ← evaluate host fuel ctx (.value separator)
        withValue signal fun sep => eachPiece (evaluate host fuel) ctx target body
          Value.truthy (items.split (some sep.text))
  | .separated target body separator items => do
    let signal ← evaluate host fuel ctx (.value separator)
    withValue signal fun sep => eachPiece (evaluate host fuel) ctx target body
      Value.truthy (items.split (some sep.text))
  | .pieces target body output rest =>
    eachPiece (evaluate host fuel) ctx target body output rest
  | .piece target text body => do
    Run.change fun s => { s with stack := s.stack.declare target ⟨text, 0⟩ }
    evaluate host fuel ctx (.value body)
  | .rounds condition body count output =>
    whileRounds (evaluate host fuel) ctx condition body count output
  | .round condition body count output => do
    let signal ← Run.inFrame (evaluate host fuel ctx (.value body))
    withValue signal fun w =>
      whileRounds (evaluate host fuel) ctx condition body count (output.append w)

/-- What a node in a value slot stands for. -/
def inside (count : Nat) : Node → Activity H
  | .template t => .template t
  | .block executions _ => .block executions
  | other =>
    if other.isControl then .control count other
    else .finished (.abort { error := .internal ("unknown value node" ++ " " ++ other.kind) })

/-- Goes on with the value of a part; any other signal is the answer. -/
def onValue (resume : Value → Activity H) : Signal → Activity H
  | .append v => resume v
  | other => .finished other.propagate

end Activity

/-- The next step of an activity. -/
inductive Step (H : Type) where
  /-- No node is evaluated any more. -/
  | ends (x : Run Signal)
  /-- A node is looked into, which costs fuel. -/
  | opens (a : Activity H)
  /-- The state is changed, and another activity takes over. -/
  | goes (change : State → State) (a : Activity H)
  /-- A part is evaluated; its signal decides how to go on. -/
  | part (w : Surrounding) (a : Activity H) (resume : Signal → Activity H)

open Activity (onValue)

/-- A control statement, with at most `count` rounds of a loop. -/
def nextControl (count : Nat) : Node → Step H
  | .forEach target list body separator _ =>
    .part .frame (.loop target list body separator) .finished
  | .ifThen condition body _ =>
    .part .here (.value condition) (onValue fun v =>
      if v.isTruthy then .value body else .finished (.append Value.falsy))
  | .ifElse condition trueBody falseBody _ =>
    .part .here (.value condition) (onValue fun v =>
      .value (if v.isTruthy then trueBody else falseBody))
  | .whileLoop condition body _ =>
    .goes id (.rounds condition body count Value.truthy)
  | other => .ends (confused "unknown control statement" other)

/-- `return` and `clear`, with or without a value. -/
def nextOptional (wrap : Value → Signal) (node : Node) : Step H :=
  if node.isAbsent then .ends (pure (wrap Value.truthy))
  else .part .here (.value node) (onValue fun v => .finished (wrap v))

/-- An open statement. -/
def nextOpen : Node → Step H
  | .assign target held _ =>
    .part .here (.value held) (onValue fun v => .store target v)
  | .returnWith held _ => nextOptional .returned held
  | .clearWith held _ => nextOptional .cleared held
  | .call name nodes loc => .goes id (.call name loc [] nodes)
  | other => .ends (confused "unknown statement" other)

/-- What a list of statements does with the signal of its first one. -/
def afterStatement (output : Value) (rest : List Node) : Signal → Activity H
  | .proceed => .statements output rest
  | .append v => .statements (output.append v) rest
  | .cleared v => .statements v rest
  | other => .finished other

/-- The trace of a call. -/
def traced (name : String) (count : Nat) (isHost : Bool) (s : State) : State :=
  { s with world := s.world.note (callLine name count s.callDepth isHost) }

/-- A call whose arguments are known. -/
def nextInvoke (ctx : Context H) (name : String) (loc : Option Loc)
    (arguments : List Value) : Step H :=
  match ctx.registry.resolve name arguments.length with
  | .error e => .ends (pure (.abort ⟨e, loc⟩))
  | .ok overload =>
    let trace := traced name arguments.length overload.isHost
    match overload.body with
    | .host entry => .goes trace (.host name loc entry arguments)
    | .script tree =>
      if tree.isBlock then .goes trace (.script loc overload.params tree arguments)
      else .ends (do
        Run.change trace
        Run.raise (.notCallable tree.kind))

/-- A call of a script's function. -/
def nextScript (ctx : Context H) (loc : Option Loc) (params : List Param)
    (body : Node) (arguments : List Value) (s : State) : Step H :=
  if ctx.maxCallDepth ≤ s.callDepth then
    .ends (pure (.abort ⟨.callDepthExceeded ctx.maxCallDepth, loc⟩))
  else match bindParams {} params arguments with
    | .error fault => .ends (Run.raise fault)
    | .ok bound =>
      .part (.call bound) (.value body) fun signal => .finished (unwind signal)

/-- The next step of an activity in a state. -/
def next (host : Host H) (fuel : Nat) (ctx : Context H) : Activity H → State → Step H
  | .finished signal, _ => .ends (pure signal)
  | .value node, _ => .opens (.inside (fuel - 1) node)
  | .template t, _ => .ends (evalTemplate t)
  | .block executions, _ =>
    .part .frame (.statements Value.truthy executions) .finished
  | .control count node, _ => nextControl count node
  | .statement node, _ =>
    if node.isBlock || node.isControl then
      .part .here (.value node) fun signal => .finished signal.suppress
    else nextOpen node
  | .statements output [], _ => .ends (pure (.append output))
  | .statements output (node :: rest), _ =>
    .part .here (.statement node) (afterStatement output rest)
  | .store target v, _ =>
    .goes (fun s => { s with stack := s.stack.set target v }) (.finished .proceed)
  | .call name loc values [], _ => nextInvoke ctx name loc values
  | .call name loc values (node :: rest), _ =>
    .part .here (.value node) (onValue fun v => .call name loc (values ++ [v]) rest)
  | .host name loc entry arguments, _ =>
    .ends (callHost host (evaluate host fuel) ctx name loc entry arguments)
  | .script loc params body arguments, s => nextScript ctx loc params body arguments s
  | .loop target list body separator, _ =>
    .part .here (.value list) (onValue fun items =>
      if separator.isAbsent then .pieces target body Value.truthy items.split
      else .separated target body separator items)
  | .separated target body separator items, _ =>
    .part .here (.value separator) (onValue fun sep =>
      .pieces target body Value.truthy (items.split (some sep.text)))
  | .pieces _ _ output [], _ => .ends (pure (.append output))
  | .pieces target body output (text :: rest), _ =>
    .part .frame (.piece target text body) (onValue fun v =>
      .pieces target body (output.append v) rest)
  | .piece target text body, _ =>
    .goes (fun s => { s with stack := s.stack.declare target ⟨text, 0⟩ }) (.value body)
  | .rounds _ _ 0 _, _ => .ends fun _ => .outOfFuel
  | .rounds condition body (count + 1) output, _ =>
    .part .here (.value condition) (onValue fun v =>
      if v.isTruthy then .round condition body count output
      else .finished (.append output))
  | .round condition body count output, _ =>
    .part .frame (.value body) (onValue fun w =>
      .rounds condition body count (output.append w))

/-- What a step does. -/
def Step.run (host : Host H) (ctx : Context H) : Nat → Step H → Run Signal
  | _, .ends x => x
  | 0, .opens _ => fun _ => .outOfFuel
  | fuel + 1, .opens a => a.run host fuel ctx
  | fuel, .goes change a => fun s => a.run host fuel ctx (change s)
  | fuel, .part w a resume => do
    let signal ← w.around (a.run host fuel ctx)
    (resume signal).run host fuel ctx

section Equation

variable (host : Host H) (fuel : Nat) (ctx : Context H)

theorem run_onValue (resume : Value → Activity H) (signal : Signal) :
    (onValue resume signal).run host fuel ctx =
      withValue signal fun v => (resume v).run host fuel ctx := by
  cases signal <;> rfl

theorem run_inside (count : Nat) (node : Node) :
    (Activity.inside count node).run host fuel ctx =
      evalValue host (evaluate host fuel) ctx count node := by
  cases node <;> rfl

/-- A part in a value slot, and what is done with its value. -/
theorem run_part_value (w : Surrounding) (a : Activity H)
    (resume : Value → Activity H) :
    (Step.part w a (onValue resume)).run host ctx fuel = (do
      let signal ← w.around (a.run host fuel ctx)
      withValue signal fun v => (resume v).run host fuel ctx) := by
  change (_ >>= fun signal => (onValue resume signal).run host fuel ctx) = _
  simp only [run_onValue]

theorem run_nextControl (count : Nat) (node : Node) :
    (nextControl count node).run host ctx fuel =
      evalControl (evaluate host fuel) ctx count node := by
  cases node with
  | forEach target list body separator loc => exact bind_pure (Run.inFrame _)
  | ifThen condition body loc =>
      rw [nextControl, run_part_value, Surrounding.around_here]
      refine bind_congr fun signal => congrArg _ (funext fun v => ?_)
      split <;> rfl
  | ifElse condition trueBody falseBody loc =>
      rw [nextControl, run_part_value, Surrounding.around_here]
      rfl
  | _ => rfl

theorem run_nextOptional (wrap : Value → Signal) (node : Node) :
    (nextOptional wrap node).run host ctx fuel =
      evalOptional (evaluate host fuel) ctx wrap node := by
  unfold nextOptional evalOptional
  split
  · rfl
  · rw [run_part_value, Surrounding.around_here]
    rfl

theorem run_nextOpen (node : Node) :
    (nextOpen node).run host ctx fuel =
      evalOpen host (evaluate host fuel) ctx node := by
  cases node with
  | assign target held loc =>
      rw [nextOpen, run_part_value, Surrounding.around_here]
      rfl
  | returnWith held loc => exact run_nextOptional host fuel ctx _ held
  | clearWith held loc => exact run_nextOptional host fuel ctx _ held
  | _ => rfl

/-- A statement that is neither open nor run for its effect is not known, and
neither is it as an open one. -/
theorem evalStatement_eq (node : Node) :
    evalStatement host (evaluate host fuel) ctx node =
      if node.isBlock || node.isControl then do
        let signal ← evaluate host fuel ctx (.value node)
        pure signal.suppress
      else evalOpen host (evaluate host fuel) ctx node := by
  cases node <;> rfl

theorem run_nextInvoke (name : String) (loc : Option Loc)
    (arguments : List Value) :
    (nextInvoke ctx name loc arguments).run host ctx fuel =
      invoke host (evaluate host fuel) ctx name loc arguments := by
  unfold nextInvoke invoke
  cases ctx.registry.resolve name arguments.length with
  | error e => rfl
  | ok overload =>
      dsimp only
      cases overload.body with
      | host entry => rfl
      | script tree =>
          dsimp only
          split <;> rfl

theorem run_nextScript (loc : Option Loc) (params : List Param) (body : Node)
    (arguments : List Value) (s : State) :
    (nextScript ctx loc params body arguments s).run host ctx fuel s =
      callScript (evaluate host fuel) ctx loc params body arguments s := by
  rw [callScript_eq]
  change _ = (if ctx.maxCallDepth ≤ s.callDepth then _ else _ : Run Signal) s
  unfold nextScript
  split
  · rfl
  · cases bindParams {} params arguments <;> rfl

/-- One argument, and the call with those that are left. -/
theorem run_call_cons (name : String) (loc : Option Loc) (values : List Value)
    (node : Node) (rest : List Node) :
    (Activity.call name loc values (node :: rest)).run host fuel ctx = (do
      let signal ← evaluate host fuel ctx (.value node)
      withValue signal fun v =>
        (Activity.call name loc (values ++ [v]) rest).run host fuel ctx) := by
  simp only [Activity.run, evalArguments, bind_assoc]
  refine bind_congr fun signal => ?_
  cases signal with
  | append v =>
      simp only [withValue, bind_assoc]
      refine bind_congr fun answer => ?_
      cases answer <;> simp
  | _ => rfl

/-- An activity does what its next step says. -/
theorem run_eq_step (a : Activity H) (s : State) :
    a.run host fuel ctx s = (next host fuel ctx a s).run host ctx fuel s := by
  cases a with
  | value node =>
      cases fuel with
      | zero => rfl
      | succ fuel => exact congrFun (run_inside host fuel ctx fuel node).symm s
  | block executions => exact congrFun (bind_pure (Run.inFrame _)).symm s
  | control count node => exact congrFun (run_nextControl ..).symm s
  | statement node =>
      rw [Activity.run, evalStatement_eq, next]
      split
      · rw [Step.run, Surrounding.around_here]
        rfl
      · exact congrFun (run_nextOpen ..).symm s
  | statements output executions =>
      cases executions with
      | nil => rfl
      | cons node rest =>
          rw [next, Step.run, Surrounding.around_here]
          refine congrFun (bind_congr fun signal => ?_) s
          cases signal <;> rfl
  | call name loc values nodes =>
      cases nodes with
      | nil =>
          rw [next, run_nextInvoke]
          change invoke host (evaluate host fuel) ctx name loc (values ++ []) s = _
          rw [List.append_nil]
      | cons node rest =>
          rw [run_call_cons, next, run_part_value, Surrounding.around_here]
          rfl
  | script loc params body arguments => exact (run_nextScript ..).symm
  | loop target list body separator =>
      rw [next, run_part_value, Surrounding.around_here]
      refine congrFun (bind_congr fun signal => congrArg _ (funext fun items => ?_)) s
      split <;> rfl
  | separated target body separator items =>
      rw [next, run_part_value, Surrounding.around_here]
      rfl
  | pieces target body output rest =>
      cases rest with
      | nil => rfl
      | cons text rest =>
          rw [next, run_part_value, Surrounding.around_frame]
          refine congrFun (bind_congr fun signal => ?_) s
          cases signal <;> rfl
  | rounds condition body count output =>
      cases count with
      | zero => rfl
      | succ count =>
          rw [next, run_part_value, Surrounding.around_here]
          refine congrFun (bind_congr fun signal => ?_) s
          cases signal with
          | append v =>
              dsimp only [withValue]
              split
              · refine bind_congr fun signal => ?_
                cases signal <;> rfl
              · rfl
          | _ => rfl
  | round condition body count output =>
      rw [next, run_part_value, Surrounding.around_frame]
      rfl
  | _ => rfl

end Equation

/-! ## The forms of a step -/

/-- The forms that a step from `s` has: it ends without evaluating a node, it changes
the state, or it has a part, whose surrounding is known and whose signal is treated
in one of five ways.  What a step does by itself is read off its form. -/
inductive Step.Form (host : Host H) (fuel : Nat) (ctx : Context H) (s : State) :
    Step H → Prop
  | answers (signal : Signal) : Form host fuel ctx s (.ends (pure signal))
  | expands (t : Template) : Form host fuel ctx s (.ends (evalTemplate t))
  | asks (name : String) (loc : Option Loc) (entry : H) (arguments : List Value) :
      Form host fuel ctx s
        (.ends (callHost host (evaluate host fuel) ctx name loc entry arguments))
  | raises (fault : Fault) : Form host fuel ctx s (.ends (Run.raise fault))
  /-- A call that is traced, of something that cannot be called. -/
  | raisesTraced (name : String) (count : Nat) (isHost : Bool) (fault : Fault) :
      Form host fuel ctx s (.ends (do
        Run.change (traced name count isHost)
        Run.raise fault))
  | stops : Form host fuel ctx s (.ends fun _ => .outOfFuel)
  | opens (a : Activity H) : Form host fuel ctx s (.opens a)
  | continues (a : Activity H) : Form host fuel ctx s (.goes id a)
  | traces (name : String) (count : Nat) (isHost : Bool) (a : Activity H) :
      Form host fuel ctx s (.goes (traced name count isHost) a)
  | stores (target : String) (v : Value) (a : Activity H) :
      Form host fuel ctx s (.goes (fun s => { s with stack := s.stack.set target v }) a)
  | declares (target : String) (v : Value) (a : Activity H) :
      Form host fuel ctx s (.goes (fun s => { s with stack := s.stack.declare target v }) a)
  /-- The signal of the part is the answer. -/
  | encloses (a : Activity H) : Form host fuel ctx s (.part .frame a .finished)
  | suppresses (a : Activity H) :
      Form host fuel ctx s (.part .here a fun signal => .finished signal.suppress)
  | sequences (a : Activity H) (output : Value) (rest : List Node) :
      Form host fuel ctx s (.part .here a (afterStatement output rest))
  | wants (a : Activity H) (resume : Value → Activity H) :
      Form host fuel ctx s (.part .here a (onValue resume))
  | wantsFramed (a : Activity H) (resume : Value → Activity H) :
      Form host fuel ctx s (.part .frame a (onValue resume))
  /-- The body of a function is entered only where there is room for another call. -/
  | calls (hroom : (s.callDepth : Int) < ctx.maxCallDepth) (bound : Scope)
      (a : Activity H) :
      Form host fuel ctx s (.part (.call bound) a fun signal => .finished (unwind signal))

section Forms

variable (host : Host H) (fuel : Nat) (ctx : Context H) (s : State)

theorem form_nextControl (count : Nat) (node : Node) :
    (nextControl count node).Form host fuel ctx s := by
  cases node with
  | forEach target list body separator loc => exact .encloses _
  | ifThen condition body loc => exact .wants ..
  | ifElse condition trueBody falseBody loc => exact .wants ..
  | whileLoop condition body loc => exact .continues _
  | _ => exact .answers _

theorem form_nextOptional (wrap : Value → Signal) (node : Node) :
    (nextOptional wrap node).Form host fuel ctx s := by
  unfold nextOptional
  split
  · exact .answers _
  · exact .wants ..

theorem form_nextOpen (node : Node) : (nextOpen node).Form host fuel ctx s := by
  cases node with
  | assign target held loc => exact .wants ..
  | returnWith held loc => exact form_nextOptional host fuel ctx s _ held
  | clearWith held loc => exact form_nextOptional host fuel ctx s _ held
  | call name nodes loc => exact .continues _
  | _ => exact .answers _

theorem form_nextInvoke (name : String) (loc : Option Loc) (arguments : List Value) :
    (nextInvoke ctx name loc arguments).Form host fuel ctx s := by
  unfold nextInvoke
  split
  · exact .answers _
  · dsimp only
    split
    · exact .traces ..
    · split
      · exact .traces ..
      · exact .raisesTraced ..

theorem form_nextScript (loc : Option Loc) (params : List Param) (body : Node)
    (arguments : List Value) :
    (nextScript ctx loc params body arguments s).Form host fuel ctx s := by
  unfold nextScript
  split
  · exact .answers _
  · next hroom =>
    split
    · exact .raises _
    · exact .calls (not_le.1 hroom) ..

/-- Every step has one of the forms. -/
theorem next_form (a : Activity H) : (next host fuel ctx a s).Form host fuel ctx s := by
  cases a with
  | finished signal => exact .answers signal
  | value node => exact .opens _
  | template t => exact .expands t
  | block executions => exact .encloses _
  | control count node => exact form_nextControl ..
  | statement node =>
      rw [next]
      split
      · exact .suppresses _
      · exact form_nextOpen ..
  | statements output executions =>
      cases executions with
      | nil => exact .answers _
      | cons node rest => exact .sequences ..
  | store target v => exact .stores target v _
  | call name loc values nodes =>
      cases nodes with
      | nil => exact form_nextInvoke ..
      | cons node rest => exact .wants ..
  | host name loc entry arguments => exact .asks name loc entry arguments
  | script loc params body arguments => exact form_nextScript ..
  | loop target list body separator => exact .wants ..
  | separated target body separator items => exact .wants ..
  | pieces target body output rest =>
      cases rest with
      | nil => exact .answers _
      | cons text rest => exact .wantsFramed ..
  | piece target text body => exact .declares target _ _
  | rounds condition body count output =>
      cases count with
      | zero => exact .stops
      | succ count => exact .wants ..
  | round condition body count output => exact .wantsFramed ..

end Forms

/-! ## What a step leads to -/

/-- What a run that has ended was made of. -/
theorem run_done {host : Host H} {fuel : Nat} {ctx : Context H} {a : Activity H}
    {s t : State} {signal : Signal}
    (h : a.run host fuel ctx s = .done signal t) :
    match next host fuel ctx a s with
    | .ends x => x s = .done signal t
    | .opens b => ∃ n, fuel = n + 1 ∧ b.run host n ctx s = .done signal t
    | .goes change b => b.run host fuel ctx (change s) = .done signal t
    | .part w b resume => ∃ first u,
        b.run host fuel ctx (w.enter s) = .done first u ∧
          (resume first).run host fuel ctx (w.leave s u) = .done signal t := by
  rw [run_eq_step] at h
  generalize next host fuel ctx a s = step at h ⊢
  cases step with
  | ends x => exact h
  | opens b =>
      cases fuel with
      | zero => cases h
      | succ n => exact ⟨n, rfl, h⟩
  | goes change b => exact h
  | part w b resume =>
      obtain ⟨first, v, hpart, hrest⟩ := Run.bind_eq_done.1 h
      obtain ⟨u, hb, rfl⟩ := Run.within_eq_done.1 hpart
      exact ⟨first, u, hb, hrest⟩

/-- What is begun in a step, with the fuel that is left for it. -/
def Step.Begins (P : Nat → Activity H → Prop) : Nat → Step H → Prop
  | _, .ends _ => True
  | 0, .opens _ => True
  | fuel + 1, .opens a => P fuel a
  | fuel, .goes _ a => P fuel a
  | fuel, .part _ a resume => P fuel a ∧ ∀ signal, P fuel (resume signal)

theorem forall_onValue {P : Activity H → Prop} {resume : Value → Activity H}
    (hresume : ∀ v, P (resume v)) (hfinished : ∀ signal, P (.finished signal))
    (signal : Signal) : P (onValue resume signal) := by
  cases signal with
  | append v => exact hresume v
  | _ => exact hfinished _

section Induction

variable {host : Host H} {ctx : Context H} {P : Nat → Activity H → Prop}

section Level

variable {fuel : Nat}
  (step : ∀ a, (∀ s, (next host fuel ctx a s).Begins P fuel) → P fuel a)

include step

theorem forall_finished (signal : Signal) : P fuel (.finished signal) :=
  step _ fun _ => trivial

variable (hvalue : ∀ node, P fuel (.value node))

include hvalue

theorem forall_script (loc : Option Loc) (params : List Param) (body : Node)
    (arguments : List Value) : P fuel (.script loc params body arguments) := by
  refine step _ fun s => ?_
  change (nextScript ctx loc params body arguments s).Begins P fuel
  unfold nextScript
  split
  · trivial
  · split
    · trivial
    · exact ⟨hvalue body, fun signal => forall_finished step _⟩

theorem forall_call (name : String) (loc : Option Loc) (values : List Value)
    (nodes : List Node) : P fuel (.call name loc values nodes) := by
  induction nodes generalizing values with
  | nil =>
      refine step _ fun s => ?_
      change (nextInvoke ctx name loc values).Begins P fuel
      unfold nextInvoke
      split
      · trivial
      · dsimp only
        split
        · exact step _ fun _ => trivial
        · split
          · exact forall_script step hvalue ..
          · trivial
  | cons node rest ih =>
      exact step _ fun s => ⟨hvalue node,
        forall_onValue (fun v => ih _) (forall_finished step)⟩

theorem begins_nextOptional (wrap : Value → Signal) (node : Node) :
    (nextOptional wrap node).Begins P fuel := by
  unfold nextOptional
  split
  · trivial
  · exact ⟨hvalue node,
      forall_onValue (fun v => forall_finished step _) (forall_finished step)⟩

theorem forall_statement (node : Node) : P fuel (.statement node) := by
  refine step _ fun s => ?_
  rw [next]
  split
  · exact ⟨hvalue node, fun signal => forall_finished step _⟩
  · cases node with
    | assign target held loc =>
        have hstore (v : Value) : P fuel (.store target v) :=
          step _ fun s => forall_finished step _
        exact ⟨hvalue held, forall_onValue hstore (forall_finished step)⟩
    | returnWith held loc => exact begins_nextOptional step hvalue _ held
    | clearWith held loc => exact begins_nextOptional step hvalue _ held
    | call name nodes loc => exact forall_call step hvalue name loc [] nodes
    | _ => trivial

theorem forall_statements (output : Value) (executions : List Node) :
    P fuel (.statements output executions) := by
  induction executions generalizing output with
  | nil => exact step _ fun s => trivial
  | cons node rest ih =>
      refine step _ fun s => ⟨forall_statement step hvalue node, fun signal => ?_⟩
      cases signal with
      | proceed => exact ih output
      | append v => exact ih (output.append v)
      | cleared v => exact ih v
      | returned v => exact forall_finished step _
      | abort failure => exact forall_finished step _

theorem forall_pieces (target : String) (body : Node) (output : Value)
    (rest : List String) : P fuel (.pieces target body output rest) := by
  induction rest generalizing output with
  | nil => exact step _ fun s => trivial
  | cons text rest ih =>
      have hpiece : P fuel (.piece target text body) := step _ fun s => hvalue body
      exact step _ fun s => ⟨hpiece,
        forall_onValue (fun v => ih _) (forall_finished step)⟩

theorem forall_separated (target : String) (body separator : Node)
    (items : Value) : P fuel (.separated target body separator items) :=
  step _ fun _ => ⟨hvalue separator,
    forall_onValue (fun _ => forall_pieces step hvalue ..) (forall_finished step)⟩

theorem forall_loop (target : String) (list body separator : Node) :
    P fuel (.loop target list body separator) := by
  refine step _ fun s => ⟨hvalue list,
    forall_onValue (fun items => ?_) (forall_finished step)⟩
  split
  · exact forall_pieces step hvalue ..
  · exact forall_separated step hvalue ..

theorem forall_rounds (condition body : Node) (count : Nat) :
    (∀ output, P fuel (.rounds condition body count output)) ∧
      ∀ output, P fuel (.round condition body count output) := by
  have hround (count : Nat)
      (h : ∀ output, P fuel (.rounds condition body count output)) (output : Value) :
      P fuel (.round condition body count output) :=
    step _ fun s => ⟨hvalue body, forall_onValue (fun w => h _) (forall_finished step)⟩
  suffices h : ∀ output, P fuel (.rounds condition body count output) from
    ⟨h, hround count h⟩
  induction count with
  | zero => exact fun output => step _ fun s => trivial
  | succ count ih =>
      refine fun output => step _ fun s => ⟨hvalue condition,
        forall_onValue (fun v => ?_) (forall_finished step)⟩
      split
      · exact hround count ih output
      · exact forall_finished step _

theorem forall_control (count : Nat) (node : Node) :
    P fuel (.control count node) := by
  refine step _ fun s => ?_
  cases node with
  | forEach target list body separator loc =>
      exact ⟨forall_loop step hvalue .., forall_finished step⟩
  | ifThen condition body loc =>
      refine ⟨hvalue condition, forall_onValue (fun v => ?_) (forall_finished step)⟩
      split
      · exact hvalue body
      · exact forall_finished step _
  | ifElse condition trueBody falseBody loc =>
      exact ⟨hvalue condition, forall_onValue (fun v => hvalue _) (forall_finished step)⟩
  | whileLoop condition body loc => exact (forall_rounds step hvalue ..).1 _
  | _ => trivial

/-- On one level of fuel, everything comes down to nodes in value slots. -/
theorem forall_of_value (a : Activity H) : P fuel a := by
  cases a with
  | finished signal => exact forall_finished step signal
  | value node => exact hvalue node
  | template t => exact step _ fun s => trivial
  | block executions =>
      exact step _ fun s => ⟨forall_statements step hvalue .., forall_finished step⟩
  | control count node => exact forall_control step hvalue count node
  | statement node => exact forall_statement step hvalue node
  | statements output executions => exact forall_statements step hvalue ..
  | store target v => exact step _ fun s => forall_finished step _
  | call name loc values nodes => exact forall_call step hvalue ..
  | host name loc entry arguments => exact step _ fun s => trivial
  | script loc params body arguments => exact forall_script step hvalue ..
  | loop target list body separator => exact forall_loop step hvalue ..
  | separated target body separator items => exact forall_separated step hvalue ..
  | pieces target body output rest => exact forall_pieces step hvalue ..
  | piece target text body => exact step _ fun s => hvalue body
  | rounds condition body count output => exact (forall_rounds step hvalue ..).1 output
  | round condition body count output => exact (forall_rounds step hvalue ..).2 output

end Level

variable (host ctx)

/-- Induction over evaluation: what holds of an activity if it holds of all
that its next step begins, holds of every activity. -/
theorem Activity.induction
    (step : ∀ fuel a, (∀ s, (next host fuel ctx a s).Begins P fuel) → P fuel a)
    (fuel : Nat) (a : Activity H) : P fuel a := by
  induction fuel generalizing a with
  | zero => exact forall_of_value (step 0) (fun node => step 0 _ fun s => trivial) a
  | succ fuel ih =>
      exact forall_of_value (step (fuel + 1))
        (fun node => step (fuel + 1) _ fun s => ih _) a

variable {host ctx}

/-- Induction over a run that has ended: what holds of every run that ends
without evaluating a node, and passes from what a step begins to the step, holds
of every run. -/
theorem run_induction {R : Activity H → State → Signal → State → Prop}
    (ends : ∀ {fuel a s x signal t}, next host fuel ctx a s = .ends x →
      x s = .done signal t → R a s signal t)
    (opens : ∀ {fuel a b s signal t}, next host fuel ctx a s = .opens b →
      R b s signal t → R a s signal t)
    (goes : ∀ {fuel a change b s signal t}, next host fuel ctx a s = .goes change b →
      R b (change s) signal t → R a s signal t)
    (part : ∀ {fuel a w b resume s first u signal t},
      next host fuel ctx a s = .part w b resume → R b (w.enter s) first u →
        R (resume first) (w.leave s u) signal t → R a s signal t)
    {fuel : Nat} {a : Activity H} {s t : State} {signal : Signal}
    (h : a.run host fuel ctx s = .done signal t) : R a s signal t := by
  refine Activity.induction host ctx (P := fun fuel a => ∀ s t signal,
    a.run host fuel ctx s = .done signal t → R a s signal t) ?_ fuel a s t signal h
  intro fuel a ih s t signal h
  have hbegins := ih s
  have hdone := run_done h
  cases hnext : next host fuel ctx a s with
  | ends x =>
      rw [hnext] at hdone
      exact ends hnext hdone
  | opens b =>
      rw [hnext] at hdone hbegins
      obtain ⟨n, rfl, hb⟩ := hdone
      exact opens hnext (hbegins _ _ _ hb)
  | goes change b =>
      rw [hnext] at hdone hbegins
      exact goes hnext (hbegins _ _ _ hdone)
  | part w b resume =>
      rw [hnext] at hdone hbegins
      obtain ⟨first, u, hb, hrest⟩ := hdone
      exact part hnext (hbegins.1 _ _ _ hb) (hbegins.2 first _ _ _ hrest)

end Induction

/-! ## Contracts -/

/-- The step keeps a contract from `s`: what it begins may be begun, and if all
of that signals what it may signal, then the step signals what is allowed. -/
def Step.Meets (begun : Activity H → Prop) (signals : Activity H → Signal → Prop)
    (allowed : Signal → Prop) (s : State) : Step H → Prop
  | .ends x => ∀ signal t, x s = .done signal t → allowed signal
  | .opens a => begun a ∧ ∀ signal, signals a signal → allowed signal
  | .goes _ a => begun a ∧ ∀ signal, signals a signal → allowed signal
  | .part _ a resume => begun a ∧ ∀ first, signals a first →
      begun (resume first) ∧ ∀ signal, signals (resume first) signal → allowed signal

/-- A contract that every step keeps holds of every run. -/
theorem signals_of_meets {host : Host H} {ctx : Context H}
    {begun : Activity H → Prop} {signals : Activity H → Signal → Prop}
    (h : ∀ fuel a s, begun a →
      (next host fuel ctx a s).Meets begun signals (signals a) s)
    {fuel : Nat} {a : Activity H} (ha : begun a) {s t : State} {signal : Signal}
    (hrun : a.run host fuel ctx s = .done signal t) : signals a signal := by
  refine run_induction (R := fun a _ signal _ => begun a → signals a signal)
    ?ends ?opens ?goes ?part hrun ha
  case ends =>
    intro fuel a s x signal t hnext hx ha
    have hmeets := h fuel a s ha
    rw [hnext] at hmeets
    exact hmeets signal t hx
  case opens =>
    intro fuel a b s signal t hnext hb ha
    have hmeets := h fuel a s ha
    rw [hnext] at hmeets
    exact hmeets.2 signal (hb hmeets.1)
  case goes =>
    intro fuel a change b s signal t hnext hb ha
    have hmeets := h fuel a s ha
    rw [hnext] at hmeets
    exact hmeets.2 signal (hb hmeets.1)
  case part =>
    intro fuel a w b resume s first u signal t hnext hb hresume ha
    have hmeets := h fuel a s ha
    rw [hnext] at hmeets
    obtain ⟨hbegun, hallowed⟩ := hmeets.2 first (hb hmeets.1)
    exact hallowed signal (hresume hbegun)

end Evaluator

end TextShell
