import TextShell.Proofs.Eval.Frames
import TextShell.Proofs.Eval.Step

/-!
# Evaluation and its history

The world keeps what was sent, traced and done on the network so far, and evaluation
adds to all three.  It neither reads what is there nor takes anything back, so a run on
top of an older history is the run without it, with the older entries left below the
new ones.
Nothing that evaluation sends is an error: errors are reported by the session.  The
environment and the clock stay as they are.

A host function could break either, so both are assumed of the host: it is to be
*discreet*.  The induction is that over the steps of evaluation; a source that a
host function asks for is evaluated with less fuel and in a context of its own.

## Main results

* `Run.Discreet` — the two properties of a run, and what keeps them.
* `Step.Form.discreet` — every step that evaluates no node has them.
* `evaluate_discreet` — evaluation has them, if the host functions do.
-/

namespace TextShell

/-- What was sent and traced, latest first, and what was done on the network. -/
structure History where
  sent : List Effect := []
  traced : List String := []
  logged : Array NetworkEvent := .empty

/-- The network with older events in front of its own. -/
def Network.atop (n : Network) (logged : Array NetworkEvent) : Network :=
  { n with log := logged ++ n.log }

/-- The world with an older history below its own. -/
def World.atop (w : World) (past : History) : World :=
  { w with
    sent := w.sent ++ past.sent
    traced := w.traced ++ past.traced
    network := w.network.atop past.logged }

/-- What a world is set up with. -/
def World.settings (w : World) : Environment × Clock := (w.environment, w.network.clock)

/-- No error was sent since, and the settings are the same. -/
def World.QuietSince (before after : World) : Prop :=
  (∀ e ∈ after.sent, e ∈ before.sent ∨ e.topics ≠ ["stderr"]) ∧
    after.settings = before.settings

namespace World.QuietSince

theorem refl (w : World) : w.QuietSince w := ⟨fun _ he => .inl he, rfl⟩

theorem trans {u v w : World} (huv : u.QuietSince v) (hvw : v.QuietSince w) :
    u.QuietSince w := by
  refine ⟨fun e he => ?_, hvw.2.trans huv.2⟩
  cases hvw.1 e he with
  | inl hv => exact huv.1 e hv
  | inr hquiet => exact .inr hquiet

end World.QuietSince

/-- What is done to the world does not depend on the history it has, leaves it and the
settings as they are, and sends no error. -/
structure World.Discreet {α : Type} (g : World → α × World) : Prop where
  atop : ∀ w past, g (w.atop past) = ((g w).1, (g w).2.atop past)
  quiet : ∀ w : World, w.QuietSince (g w).2

/-- What the host functions do to the world is discreet. -/
def Host.Discreet {H : Type} (host : Host H) : Prop :=
  ∀ entry registry arguments, World.Discreet (host.call entry registry arguments)

/-- The state with an older history below that of its world. -/
def State.atop (s : State) (past : History) : State :=
  { s with world := s.world.atop past }

/-- The outcome with an older history below that of the world it ends in. -/
def Outcome.atop {α : Type} (past : History) : Outcome α → Outcome α
  | .done a t => .done a (t.atop past)
  | .raised fault t => .raised fault (t.atop past)
  | .outOfFuel => .outOfFuel

namespace Run

variable {α β : Type}

/-- A run that is discreet, in whatever way it ends. -/
structure Discreet (x : Run α) : Prop where
  atop : ∀ s past, x (s.atop past) = (x s).atop past
  quiet : ∀ s, (x s).Leaves fun t => s.world.QuietSince t.world

theorem discreet_pure (a : α) : Discreet (pure a : Run α) where
  atop _ _ := rfl
  quiet s := .refl s.world

theorem discreet_raise (fault : Fault) : Discreet (raise fault : Run α) where
  atop _ _ := rfl
  quiet s := .refl s.world

theorem discreet_outOfFuel : Discreet (fun _ => .outOfFuel : Run α) where
  atop _ _ := rfl
  quiet _ := trivial

theorem Discreet.bind {x : Run α} {f : α → Run β} (hx : Discreet x)
    (hf : ∀ a, Discreet (f a)) : Discreet (x >>= f) where
  atop s past := by
    change Run.bind x f (s.atop past) = (Run.bind x f s).atop past
    unfold Run.bind
    rw [hx.atop s past]
    cases x s with
    | done a t => exact (hf a).atop t past
    | raised fault t => rfl
    | outOfFuel => rfl
  quiet s := by
    have hs := hx.quiet s
    change (Run.bind x f s).Leaves _
    unfold Run.bind
    cases hxs : x s with
    | done a t =>
        rw [hxs] at hs
        exact ((hf a).quiet t).mono fun u hu => hs.trans hu
    | raised fault t =>
        rw [hxs] at hs
        exact hs
    | outOfFuel => trivial

/-- A run from another state, if neither way the history is touched. -/
theorem Discreet.within {enter : State → State} {leave : State → State → State}
    {x : Run α} (hx : Discreet x)
    (henter : ∀ s past, enter (s.atop past) = (enter s).atop past)
    (hleave : ∀ s t past, leave (s.atop past) (t.atop past) = (leave s t).atop past)
    (hworld : ∀ s, (enter s).world = s.world)
    (hworld' : ∀ s t, (leave s t).world = t.world) :
    Discreet (Run.within enter leave x) where
  atop s past := by
    unfold Run.within
    rw [henter, hx.atop]
    cases x (enter s) with
    | done a t => exact congrArg _ (hleave s t past)
    | raised fault t => exact congrArg _ (hleave s t past)
    | outOfFuel => rfl
  quiet s := by
    have hs := hx.quiet (enter s)
    have hleft (t : State) (ht : (enter s).world.QuietSince t.world) :
        s.world.QuietSince (leave s t).world := by
      rw [hworld', ← hworld s]
      exact ht
    unfold Run.within
    cases hxs : x (enter s) with
    | done a t =>
        rw [hxs] at hs
        exact hleft t hs
    | raised fault t =>
        rw [hxs] at hs
        exact hleft t hs
    | outOfFuel => trivial

theorem Discreet.around {x : Run α} (hx : Discreet x) (w : Surrounding) :
    Discreet (w.around x) := by
  refine hx.within ?_ ?_ ?_ ?_ <;> cases w <;> intros <;> rfl

theorem Discreet.apart {x : Run α} (hx : Discreet x) : Discreet (Run.apart x) :=
  hx.within (fun _ _ => rfl) (fun _ _ _ => rfl) (fun _ => rfl) fun _ _ => rfl

/-- A change that is made below every older history as it is without one. -/
theorem discreet_change {f : State → State}
    (hatop : ∀ s past, f (s.atop past) = (f s).atop past)
    (hquiet : ∀ s : State, s.world.QuietSince (f s).world) : Discreet (change f) where
  atop s past := congrArg _ (hatop s past)
  quiet := hquiet

theorem discreet_act {g : World → α × World} (hg : World.Discreet g) :
    Discreet (act fun _ => g) where
  atop s past := by
    show Outcome.done (g (s.world.atop past)).1
      { s with world := (g (s.world.atop past)).2 } = _
    rw [hg.atop]
    rfl
  quiet s := hg.quiet s.world

theorem discreet_note (line : String) : Discreet (note line) :=
  discreet_change (fun _ _ => rfl) fun s => .refl s.world

theorem discreet_noteAll (lines : List String) : Discreet (Evaluator.noteAll lines) := by
  induction lines with
  | nil => exact discreet_pure ()
  | cons line rest ih => exact (discreet_note line).bind fun _ => ih

end Run

namespace Evaluator

open Run (Discreet)

variable {H : Type} {host : Host H}

/-! ## Functions from outside -/

section Source

variable {eval : Context H → Task → Run Signal}
  (heval : ∀ ctx executions, Discreet (eval ctx (.statements executions)))

include heval

theorem discreet_evalSource (ctx : Context H) (source : String) :
    Discreet (evalSource eval ctx source) := by
  unfold evalSource
  split
  · exact Run.discreet_pure _
  · refine (Run.discreet_note _).bind fun _ => ?_
    split
    · exact Run.discreet_pure _
    · split
      · exact Run.discreet_pure _
      · refine (Run.discreet_noteAll _).bind fun _ => ?_
        refine (heval _ _).apart.bind fun signal => ?_
        split <;> exact Run.discreet_pure _

theorem discreet_callHost (hhost : host.Discreet) (ctx : Context H) (name : String)
    (loc : Option Loc) (entry : H) (arguments : List Value) :
    Discreet (callHost host eval ctx name loc entry arguments) := by
  rw [callHost_eq]
  refine (Run.discreet_act (hhost entry _ arguments)).bind fun reply => ?_
  cases reply with
  | value v => exact Run.discreet_pure _
  | error e => exact Run.discreet_pure _
  | fault fault => exact Run.discreet_raise fault
  | foreign kind => exact Run.discreet_pure _
  | evaluate source => exact discreet_evalSource heval ctx source

end Source

/-! ## Steps -/

/-- What the step does by itself is discreet. -/
def Step.Discreet : Step H → Prop
  | .ends x => x.Discreet
  | .goes change _ => (Run.change change).Discreet
  | _ => True

/-- A step whose parts are discreet is so itself. -/
theorem Step.Discreet.run {fuel : Nat} {ctx : Context H} {step : Step H}
    (hstep : step.Discreet)
    (hbegins : step.Begins (fun n a => (a.run host n ctx).Discreet) fuel) :
    (step.run host ctx fuel).Discreet := by
  cases step with
  | ends x => exact hstep
  | opens a =>
      cases fuel with
      | zero => exact Run.discreet_outOfFuel
      | succ n => exact hbegins
  | goes change a => exact Run.Discreet.bind hstep fun _ => hbegins
  | part w a resume => exact (hbegins.1.around w).bind hbegins.2

/-- What a step does by itself is discreet, if the evaluation of sources is. -/
theorem Step.Form.discreet (hhost : host.Discreet) {fuel : Nat}
    (hsource : ∀ ctx executions,
      Run.Discreet (evaluate host fuel ctx (.statements executions)))
    {ctx : Context H} {s : State} {step : Step H} (h : step.Form host fuel ctx s) :
    step.Discreet := by
  have htraced (name : String) (count : Nat) (isHost : Bool) :
      Run.Discreet (Run.change (traced name count isHost)) :=
    Run.discreet_change (fun _ _ => rfl) fun s => .refl s.world
  have hstack (f : ScopeStack → ScopeStack) :
      Run.Discreet (Run.change fun s => { s with stack := f s.stack }) :=
    Run.discreet_change (fun _ _ => rfl) fun s => .refl s.world
  cases h with
  | asks name loc entry arguments =>
      exact discreet_callHost hsource hhost ctx name loc entry arguments
  | answers signal => exact Run.discreet_pure signal
  | expands t => exact ⟨fun _ _ => rfl, fun s => .refl s.world⟩
  | raises fault => exact Run.discreet_raise fault
  | raisesTraced name count isHost fault =>
      exact (htraced name count isHost).bind fun _ => Run.discreet_raise fault
  | stops => exact Run.discreet_outOfFuel
  | continues a => exact hstack id
  | traces name count isHost a => exact htraced name count isHost
  | stores target v a => exact hstack fun stack => stack.set target v
  | declares target v a => exact hstack fun stack => stack.declare target v
  | _ => trivial

/-- Which step is next does not depend on the history. -/
theorem next_atop (host : Host H) (fuel : Nat) (ctx : Context H) (a : Activity H)
    (s : State) (past : History) :
    next host fuel ctx a (s.atop past) = next host fuel ctx a s := by
  cases a with
  | statements output executions => cases executions <;> rfl
  | call name loc values nodes => cases nodes <;> rfl
  | pieces target body output rest => cases rest <;> rfl
  | rounds condition body count output => cases count <;> rfl
  | _ => rfl

/-! ## Runs -/

/-- One step of the induction. -/
theorem discreet_of_begins (hhost : host.Discreet) {fuel : Nat}
    (hsource : ∀ ctx executions,
      Discreet (evaluate host fuel ctx (.statements executions)))
    (ctx : Context H) (a : Activity H)
    (hbegins : ∀ s, (next host fuel ctx a s).Begins
      (fun n a => (a.run host n ctx).Discreet) fuel) :
    (a.run host fuel ctx).Discreet where
  atop s past := by
    have hstep := ((next_form host fuel ctx s a).discreet hhost hsource).run (hbegins s)
    rw [run_eq_step, run_eq_step, next_atop]
    exact hstep.atop s past
  quiet s := by
    have hstep := ((next_form host fuel ctx s a).discreet hhost hsource).run (hbegins s)
    rw [run_eq_step]
    exact hstep.quiet s

theorem run_discreet (hhost : host.Discreet) (fuel : Nat) (ctx : Context H)
    (a : Activity H) : (a.run host fuel ctx).Discreet := by
  -- The context is general: with less fuel, a source may be evaluated in another.
  induction fuel generalizing ctx a with
  | zero =>
      have hsource (ctx : Context H) (executions : List Node) :
          Discreet (evaluate host 0 ctx (.statements executions)) :=
        Run.discreet_outOfFuel
      have hstep (a : Activity H) := discreet_of_begins hhost hsource ctx a
      exact forall_of_value hstep (fun node => hstep (.value node) fun _ => trivial) a
  | succ fuel ih =>
      have hsource (ctx : Context H) (executions : List Node) :
          Discreet (evaluate host (fuel + 1) ctx (.statements executions)) :=
        ih ctx (.statements Value.truthy executions)
      have hstep (a : Activity H) := discreet_of_begins hhost hsource ctx a
      exact forall_of_value hstep (fun node => hstep (.value node) fun _ => ih ctx _) a

/-- Evaluation does not depend on the history before it, and sends no errors. -/
theorem evaluate_discreet (hhost : host.Discreet) (fuel : Nat) (ctx : Context H)
    (executions : List Node) :
    Discreet (evaluate host fuel ctx (.statements executions)) := by
  cases fuel with
  | zero => exact Run.discreet_outOfFuel
  | succ fuel => exact run_discreet hhost fuel ctx (.statements Value.truthy executions)

theorem execute_discreet (hhost : host.Discreet) (fuel : Nat) (ctx : Context H)
    (executions : List Node) : Discreet (execute host fuel ctx executions) :=
  (evaluate_discreet hhost fuel ctx executions).bind fun _ => Run.discreet_pure _

end Evaluator

end TextShell
