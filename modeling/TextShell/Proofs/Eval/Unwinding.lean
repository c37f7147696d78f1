import TextShell.Proofs.Eval.Frames
import TextShell.Proofs.Eval.Step

/-!
# Unwinding

`Reaches` says that one activity is met in the course of another, from which
state, and what is then still pending: for each part that has been begun and has
not ended, how its activity goes on.  What becomes of the outer activity is what
the pending ones make of the outcome of the inner one, one after the other
(`run_of_reaches`), so whatever is evaluated behind the inner activity is
evaluated by one of them.

A return or an abort finishes them all.  Every activity answers such a signal
of a part with the signal itself, except that a call of a function makes a value
of a return; and all that is lost on the way are the frames that were pushed for
the parts.

## Main results

* `run_of_reaches` — a run is made of the run of any activity met in it.
* `resume_of_unwinds` — nothing goes on behind a return or an abort.
* `unwinding_loses_nothing` — what a return or an abort comes to.
-/

namespace TextShell

namespace Signal

/-- The signals that leave everything they stand in. -/
inductive Unwinds : Signal → Prop
  | returned (v : Value) : Unwinds (.returned v)
  | abort (failure : Failure) : Unwinds (.abort failure)

end Signal

theorem ScopeStack.AddsNames.depth_eq {names : List String} {s t : ScopeStack}
    (h : s.AddsNames names t) : t.depth = s.depth := by
  cases h with
  | toGlobals _ => rfl
  | toFrame _ _ houter =>
      simp only [ScopeStack.depth, List.length_cons, houter.length_eq]

namespace Surrounding

/-- The part is the body of a function. -/
def isCall : Surrounding → Bool
  | .call _ => true
  | _ => false

theorem eq_call_of_isCall {w : Surrounding} (h : w.isCall = true) :
    ∃ bound, w = .call bound := by
  cases w with
  | here => cases h
  | frame => cases h
  | call bound => exact ⟨bound, rfl⟩

/-- Behind a part there are as many frames as before it. -/
theorem depth_leave (w : Surrounding) {s t : State}
    (h : t.stack.depth = (w.enter s).stack.depth) :
    (w.leave s t).stack.depth = s.stack.depth := by
  cases w with
  | here => exact h
  | frame =>
      change t.stack.frames.tail.length = s.stack.frames.length
      have hpushed : t.stack.frames.length = s.stack.frames.length + 1 := h
      rw [List.length_tail, hpushed]
      rfl
  | call bound => rfl

end Surrounding

namespace Evaluator

variable {H : Type}

/-! ## Frames -/

section Depth

open Run (Leads)

/-- As many frames as before. -/
abbrev SameDepth (s t : ScopeStack) : Prop := t.depth = s.depth

/-- The step itself pushes and drops no frames. -/
def Step.KeepsDepth (s : State) : Step H → Prop
  | .ends x => Leads SameDepth x
  | .goes change _ => (change s).stack.depth = s.stack.depth
  | .opens _ => True
  | .part _ _ _ => True

theorem Step.Form.keepsDepth {host : Host H} {fuel : Nat} {ctx : Context H} {s : State}
    {step : Step H} (h : step.Form host fuel ctx s) : step.KeepsDepth s := by
  cases h with
  | asks name loc entry arguments =>
      have hevolves : Leads (ScopeStack.Evolves [])
          (callHost host (evaluate host fuel) ctx name loc entry arguments) :=
        discipline_evolves.callHost name loc entry arguments
      exact hevolves.mono fun _ _ h => h.addsNames.depth_eq
  | stores target v => exact (ScopeStack.addsNames_set s.stack target v).depth_eq
  | declares target v => exact (ScopeStack.addsNames_declare s.stack target v).depth_eq
  | answers signal => exact fun _ => rfl
  | expands t => exact fun _ => rfl
  | raises fault => exact fun _ => rfl
  | raisesTraced name count isHost fault => exact fun _ => rfl
  | stops => exact fun _ => trivial
  | continues a => rfl
  | traces name count isHost a => rfl
  | _ => trivial

/-- Every frame that is pushed in a run is dropped in it. -/
theorem run_depth {host : Host H} {ctx : Context H} {fuel : Nat} {a : Activity H}
    {s t : State} {signal : Signal} (h : a.run host fuel ctx s = .done signal t) :
    t.stack.depth = s.stack.depth := by
  refine run_induction (R := fun _ s _ t => t.stack.depth = s.stack.depth)
    ?ends ?opens ?goes ?part h
  case ends =>
    intro fuel a s x signal t hnext hx
    have hkeeps := (next_form host fuel ctx s a).keepsDepth
    rw [hnext] at hkeeps
    have hleaves := hkeeps s
    rw [hx] at hleaves
    exact hleaves
  case opens =>
    intro fuel a b s signal t _ hb
    exact hb
  case goes =>
    intro fuel a change b s signal t hnext hb
    have hkeeps := (next_form host fuel ctx s a).keepsDepth
    rw [hnext] at hkeeps
    exact hb.trans hkeeps
  case part =>
    intro fuel a w b resume s first u signal t _ hb hrest
    exact hrest.trans (w.depth_leave hb)

end Depth

/-! ## What is pending -/

/-- A part that has been begun, and how its activity goes on behind it. -/
structure Pending (H : Type) where
  surrounding : Surrounding
  /-- The state from which the part was entered. -/
  entered : State
  fuel : Nat
  resume : Signal → Activity H

/-- What the activity makes of the outcome of its part. -/
def Pending.settle (host : Host H) (ctx : Context H) (p : Pending H) :
    Outcome Signal → Outcome Signal
  | .done signal t =>
    (p.resume signal).run host p.fuel ctx (p.surrounding.leave p.entered t)
  | .raised fault t => .raised fault (p.surrounding.leave p.entered t)
  | .outOfFuel => .outOfFuel

/-- What activities that are pending, innermost first, make of an outcome. -/
def settleAll (host : Host H) (ctx : Context H) (pending : List (Pending H))
    (outcome : Outcome Signal) : Outcome Signal :=
  pending.foldl (fun o p => p.settle host ctx o) outcome

theorem settleAll_concat (host : Host H) (ctx : Context H) (pending : List (Pending H))
    (p : Pending H) (outcome : Outcome Signal) :
    settleAll host ctx (pending ++ [p]) outcome =
      p.settle host ctx (settleAll host ctx pending outcome) := by
  rw [settleAll, List.foldl_append]
  rfl

/-- In the course of the first activity, from a state and with so much fuel, the
second one is met, while the parts in the list are pending. -/
inductive Reaches (host : Host H) (ctx : Context H) :
    Nat → Activity H → State → List (Pending H) → Nat → Activity H → State → Prop
  | here {n : Nat} {a : Activity H} {s : State} : Reaches host ctx n a s [] n a s
  | opens {n m : Nat} {a b c : Activity H} {s u : State} {pending : List (Pending H)}
      (hnext : next host (n + 1) ctx a s = .opens b)
      (h : Reaches host ctx n b s pending m c u) :
      Reaches host ctx (n + 1) a s pending m c u
  | goes {n m : Nat} {a b c : Activity H} {s u : State} {pending : List (Pending H)}
      {change : State → State} (hnext : next host n ctx a s = .goes change b)
      (h : Reaches host ctx n b (change s) pending m c u) :
      Reaches host ctx n a s pending m c u
  /-- In a part of the activity. -/
  | into {n m : Nat} {a b c : Activity H} {s u : State} {pending : List (Pending H)}
      {w : Surrounding} {resume : Signal → Activity H}
      (hnext : next host n ctx a s = .part w b resume)
      (h : Reaches host ctx n b (w.enter s) pending m c u) :
      Reaches host ctx n a s (pending ++ [⟨w, s, n, resume⟩]) m c u
  /-- Behind a part of the activity. -/
  | onward {n m : Nat} {a b c : Activity H} {s t u : State}
      {pending : List (Pending H)} {w : Surrounding} {resume : Signal → Activity H}
      {signal : Signal} (hnext : next host n ctx a s = .part w b resume)
      (hpart : b.run host n ctx (w.enter s) = .done signal t)
      (h : Reaches host ctx n (resume signal) (w.leave s t) pending m c u) :
      Reaches host ctx n a s pending m c u

section Reaching

variable {host : Host H} {ctx : Context H} {n m : Nat} {a b : Activity H}
  {s u : State} {pending : List (Pending H)}

theorem run_of_part {w : Surrounding} {resume : Signal → Activity H}
    (hnext : next host n ctx a s = .part w b resume) :
    a.run host n ctx s =
      (Pending.mk w s n resume).settle host ctx (b.run host n ctx (w.enter s)) := by
  rw [run_eq_step, hnext]
  change Run.bind (w.around (b.run host n ctx)) _ s = _
  rw [Run.bind, Surrounding.around, Run.within]
  cases b.run host n ctx (w.enter s) <;> rfl

/-- A run is made of the run of any activity that is met in it. -/
theorem run_of_reaches (h : Reaches host ctx n a s pending m b u) :
    a.run host n ctx s = settleAll host ctx pending (b.run host m ctx u) := by
  induction h with
  | here => rfl
  | opens hnext _ ih =>
      rw [run_eq_step, hnext]
      exact ih
  | goes hnext _ ih =>
      rw [run_eq_step, hnext]
      exact ih
  | into hnext _ ih =>
      rw [run_of_part hnext, ih, settleAll_concat]
  | onward hnext hpart _ ih =>
      rw [run_of_part hnext, hpart]
      exact ih

/-- What is pending is a part of some step. -/
theorem part_of_pending (h : Reaches host ctx n a s pending m b u) {p : Pending H}
    (hp : p ∈ pending) :
    ∃ a b, next host p.fuel ctx a p.entered = .part p.surrounding b p.resume := by
  induction h with
  | here => cases hp
  | opens _ _ ih => exact ih hp
  | goes _ _ ih => exact ih hp
  | into hnext _ ih =>
      rcases List.mem_append.1 hp with hinner | hlast
      · exact ih hinner
      · obtain rfl := List.mem_singleton.1 hlast
        exact ⟨_, _, hnext⟩
  | onward _ _ _ ih => exact ih hp

end Reaching

/-! ## Returns and aborts -/

/-- What a return or an abort of a part is behind it: a call unwinds it. -/
def passed : Surrounding → Signal → Signal
  | .call _, signal => unwind signal
  | _, signal => signal

theorem passed_eq {w : Surrounding} (hcall : w.isCall = false) (signal : Signal) :
    passed w signal = signal := by
  cases w with
  | here => rfl
  | frame => rfl
  | call bound => cases hcall

/-- The step is finished with the signal of its part. -/
def Step.PassesOn (signal : Signal) : Step H → Prop
  | .part w _ resume => resume signal = .finished (passed w signal)
  | _ => True

section PassingOn

variable {signal : Signal} (hsignal : signal.Unwinds)

include hsignal

theorem onValue_of_unwinds (resume : Value → Activity H) :
    Activity.onValue resume signal = .finished signal := by
  cases hsignal <;> rfl

/-- Nothing goes on behind a return or an abort. -/
theorem Step.Form.passesOn {host : Host H} {fuel : Nat} {ctx : Context H} {s : State}
    {step : Step H} (h : step.Form host fuel ctx s) : step.PassesOn signal := by
  cases h with
  | encloses a => rfl
  | suppresses a => cases hsignal <;> rfl
  | sequences a output rest => cases hsignal <;> rfl
  | wants a resume => exact onValue_of_unwinds hsignal resume
  | wantsFramed a resume => exact onValue_of_unwinds hsignal resume
  | calls hroom bound a => rfl
  | _ => trivial

end PassingOn

/-- What is pending is finished with the signal. -/
theorem resume_of_unwinds {host : Host H} {ctx : Context H} {n m : Nat}
    {a b : Activity H} {s u : State} {pending : List (Pending H)} {signal : Signal}
    (h : Reaches host ctx n a s pending m b u) (hsignal : signal.Unwinds)
    {p : Pending H} (hp : p ∈ pending) :
    p.resume signal = .finished (passed p.surrounding signal) := by
  obtain ⟨a, b, hnext⟩ := part_of_pending h hp
  have hpasses := (next_form host p.fuel ctx p.entered a).passesOn hsignal
  rw [hnext] at hpasses
  exact hpasses

/-- All that differs from `t` is that frames are gone, from the top. -/
structure Shed (t t' : State) : Prop where
  globals : t'.stack.globals = t.stack.globals
  world : t'.world = t.world
  callDepth : t'.callDepth = t.callDepth
  frames : t'.stack.frames <:+ t.stack.frames

theorem Shed.refl (t : State) : Shed t t :=
  ⟨rfl, rfl, rfl, List.suffix_refl _⟩

theorem Shed.trans {t u v : State} (h : Shed t u) (h' : Shed u v) : Shed t v where
  globals := h'.globals.trans h.globals
  world := h'.world.trans h.world
  callDepth := h'.callDepth.trans h.callDepth
  frames := h'.frames.trans h.frames

theorem shed_leave {w : Surrounding} (hcall : w.isCall = false) (s t : State) :
    Shed t (w.leave s t) := by
  cases w with
  | here => exact Shed.refl t
  | frame => exact ⟨rfl, rfl, rfl, List.tail_suffix _⟩
  | call bound => cases hcall

/-- Activities that are finished with the signal of their part answer it, behind
the state in which the innermost part has ended. -/
theorem settleAll_finished (host : Host H) (ctx : Context H)
    {pending : List (Pending H)} {signal : Signal} {t : State}
    (hcall : ∀ p ∈ pending, p.surrounding.isCall = false)
    (hresume : ∀ p ∈ pending, p.resume signal = .finished signal) :
    ∃ t', settleAll host ctx pending (.done signal t) = .done signal t' ∧ Shed t t' := by
  -- The innermost part is settled first, and what is left is settled from the
  -- state behind it.
  induction pending generalizing t with
  | nil => exact ⟨t, rfl, Shed.refl t⟩
  | cons p rest ih =>
      obtain ⟨hp, hrest⟩ := List.forall_mem_cons.1 hcall
      obtain ⟨hfinished, hfinishedRest⟩ := List.forall_mem_cons.1 hresume
      obtain ⟨t', hsettle, hshed⟩ :=
        ih (t := p.surrounding.leave p.entered t) hrest hfinishedRest
      refine ⟨t', ?_, (shed_leave hp p.entered t).trans hshed⟩
      rw [← hsettle, settleAll, List.foldl_cons, Pending.settle, hfinished]
      rfl

/-- Returns and aborts unwind without loss.  If an activity that is met in the
course of another one signals a return or an abort, then nothing that is pending
goes on: each is finished with that signal, and so is the outer activity.  The
globals and the world are as they were, and so are the frames that the outer
activity began with.  A call that is unwound makes a value of a return, leaves
an abort as it is, and gives its caller the frames back. -/
theorem unwinding_loses_nothing {host : Host H} {ctx : Context H} {n m : Nat}
    {a b : Activity H} {s u t : State} {pending : List (Pending H)} {signal : Signal}
    (hreach : Reaches host ctx n a s pending m b u)
    (hrun : b.run host m ctx u = .done signal t) (hsignal : signal.Unwinds) :
    a.run host n ctx s = settleAll host ctx pending (.done signal t) ∧
    ((∀ p ∈ pending, p.surrounding.isCall = false) →
      (∀ p ∈ pending, p.resume signal = .finished signal) ∧
      ∃ t', a.run host n ctx s = .done signal t' ∧ Shed t t' ∧
        t'.stack.frames.length = s.stack.frames.length) ∧
    ∀ inner call, pending = inner ++ [call] →
      (∀ p ∈ inner, p.surrounding.isCall = false) → call.surrounding.isCall = true →
      (∀ p ∈ inner, p.resume signal = .finished signal) ∧
      call.resume signal = .finished (unwind signal) ∧
      ∃ t', a.run host n ctx s = .done (unwind signal) t' ∧
        t'.stack.globals = t.stack.globals ∧ t'.world = t.world ∧
        t'.stack.frames = call.entered.stack.frames := by
  have hsettle : a.run host n ctx s = settleAll host ctx pending (.done signal t) := by
    rw [run_of_reaches hreach, hrun]
  have hresume (p : Pending H) (hp : p ∈ pending)
      (hcall : p.surrounding.isCall = false) : p.resume signal = .finished signal := by
    rw [resume_of_unwinds hreach hsignal hp, passed_eq hcall]
  refine ⟨hsettle, fun hcalls => ?_, fun inner call hpending hinner hcall => ?_⟩
  · have hfinished (p : Pending H) (hp : p ∈ pending) := hresume p hp (hcalls p hp)
    obtain ⟨t', hall, hshed⟩ := settleAll_finished host ctx (t := t) hcalls hfinished
    have hdone : a.run host n ctx s = .done signal t' := hsettle.trans hall
    exact ⟨hfinished, t', hdone, hshed, run_depth hdone⟩
  · subst hpending
    have hfinished (p : Pending H) (hp : p ∈ inner) :=
      hresume p (List.mem_append_left _ hp) (hinner p hp)
    obtain ⟨t', hall, hshed⟩ := settleAll_finished host ctx (t := t) hinner hfinished
    obtain ⟨bound, hbound⟩ := Surrounding.eq_call_of_isCall hcall
    have hlast : call.resume signal = .finished (unwind signal) := by
      rw [resume_of_unwinds hreach hsignal (p := call) (by simp), hbound]
      rfl
    refine ⟨hfinished, hlast, Surrounding.leave (.call bound) call.entered t', ?_,
      hshed.globals, hshed.world, rfl⟩
    rw [hsettle, settleAll_concat, hall, Pending.settle, hlast, hbound]
    rfl

/-- A `return` in the separator of a loop that is an argument of a call, with an
assignment behind the call. -/
def earlyReturn : Node :=
  .block
    [.call "f" [.forEach "x" (.block [] none) (.block [] none)
      (.block [.returnWith .absent none] none) none] none,
    .assign "y" (.block [] none) none] none

/-- No function comes from outside. -/
def silent : Host Empty := ⟨fun entry => entry.elim⟩

theorem reaches_earlyReturn (s : State) :
    ∃ pending m u, (∀ p ∈ pending, p.surrounding.isCall = false) ∧
      Reaches silent ⟨{}, 10⟩ 6 (.value earlyReturn) s pending m
        (.statement (.returnWith .absent none)) u := by
  refine ⟨_, _, _, ?_, .opens rfl (.into rfl (.into rfl (.goes rfl (.into rfl
    (.opens rfl (.into rfl (.onward rfl rfl (.into rfl (.opens rfl
      (.into rfl (.into rfl .here)))))))))))⟩
  simp [Surrounding.isCall]

/-- Neither the loop nor the call nor the assignment takes place; and as the body
of a function, all of it is the value of the call. -/
theorem unwinding_loses_nothing_early :
    (∃ pending m u t, Reaches silent ⟨{}, 10⟩ 6 (.value earlyReturn) {} pending m
        (.statement (.returnWith .absent none)) u ∧
      (Activity.value earlyReturn).run silent 6 ⟨{}, 10⟩ {} =
        .done (.returned Value.truthy) t ∧ Shed u t) ∧
    ∃ pending m u t, Reaches silent ⟨{}, 10⟩ 6 (.script none [] earlyReturn []) {}
        pending m (.statement (.returnWith .absent none)) u ∧
      (Activity.script none [] earlyReturn []).run silent 6 ⟨{}, 10⟩ {} =
        .done (.append Value.truthy) t ∧ t.stack.frames = [] := by
  constructor
  · obtain ⟨pending, m, u, hcalls, hreach⟩ := reaches_earlyReturn {}
    have h := unwinding_loses_nothing hreach (t := u) rfl (.returned Value.truthy)
    obtain ⟨-, t, hdone, hshed, -⟩ := h.2.1 hcalls
    exact ⟨pending, m, u, t, hreach, hdone, hshed⟩
  · obtain ⟨inner, m, u, hcalls, hbody⟩ :=
      reaches_earlyReturn (Surrounding.enter (.call {}) {})
    have hreach : Reaches silent ⟨{}, 10⟩ 6 (.script none [] earlyReturn []) {} _ m
        (.statement (.returnWith .absent none)) u := .into rfl hbody
    have h := unwinding_loses_nothing hreach (t := u) rfl (.returned Value.truthy)
    obtain ⟨-, -, t, hdone, -, -, hframes⟩ := h.2.2 inner _ rfl hcalls rfl
    exact ⟨_, m, u, t, hreach, hdone, hframes⟩

end Evaluator

end TextShell
