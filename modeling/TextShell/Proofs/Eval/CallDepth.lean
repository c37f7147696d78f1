import TextShell.Proofs.Eval.Signals
import TextShell.Proofs.Eval.Unwinding

/-!
# The depth of calls

The state counts the calls that are active, and a call of a script's function is
refused once there are as many as the context allows.  The counter is right at
every point of a run: the calls that are active there are those whose bodies are
pending, and the counter has grown by their number.  It is back at its old value
wherever an activity ends, be it with a signal or with a fault.

An abort for the depth of calls therefore tells where it comes from.  It arises
where a call is refused, with as many calls active as the limit says, unless a
function from outside reports the same error.

## Main results

* `run_callDepth` — however a run ends, the counter is as it was.
* `callDepth_of_reaches` — the counter has grown by the calls that are pending.
* `callDepth_le_of_reaches` — it stays within the limit.
* `exceeds_of_depthAbort` — where an abort for the depth of calls arises.
* `call_depth_counts_active` — all of this of the runs of one evaluator.
-/

namespace TextShell

namespace Surrounding

/-- Entering the body of a function is what the counter counts. -/
theorem callDepth_enter (w : Surrounding) (s : State) :
    (w.enter s).callDepth = s.callDepth + if w.isCall then 1 else 0 := by
  cases w <;> rfl

theorem callDepth_leave (w : Surrounding) {s t : State}
    (h : t.callDepth = (w.enter s).callDepth) : (w.leave s t).callDepth = s.callDepth := by
  cases w with
  | here => exact h
  | frame => exact h
  | call bound =>
      show t.callDepth - 1 = s.callDepth
      rw [h]
      rfl

end Surrounding

namespace Run

variable {α β : Type}

/-- However the run ends, as many calls are active as before. -/
def KeepsCallDepth (x : Run α) : Prop :=
  ∀ s, (x s).Leaves fun t => t.callDepth = s.callDepth

theorem KeepsCallDepth.bind {x : Run α} {f : α → Run β} (hx : KeepsCallDepth x)
    (hf : ∀ a, KeepsCallDepth (f a)) : KeepsCallDepth (x >>= f) := by
  intro s
  have hs := hx s
  show (Run.bind x f s).Leaves _
  rw [Run.bind]
  cases hxs : x s with
  | done a t =>
      rw [hxs] at hs
      exact (hf a t).mono fun u hu => hu.trans hs
  | raised fault t =>
      rw [hxs] at hs
      exact hs
  | outOfFuel => trivial

theorem KeepsCallDepth.within {w : Surrounding} {x : Run α} (hx : KeepsCallDepth x) :
    KeepsCallDepth (w.around x) := by
  intro s
  have hs := hx (w.enter s)
  rw [Surrounding.around, Run.within]
  cases hxs : x (w.enter s) with
  | done a t =>
      rw [hxs] at hs
      exact w.callDepth_leave hs
  | raised fault t =>
      rw [hxs] at hs
      exact w.callDepth_leave hs
  | outOfFuel => trivial

end Run

namespace Evaluator

variable {H : Type}

open Run (KeepsCallDepth)

/-- Evaluation keeps the number of active calls, in every slot. -/
theorem discipline_callDepth :
    Discipline (fun _ x => KeepsCallDepth x) fun _ x => KeepsCallDepth x where
  pure _ := fun _ => rfl
  raise _ := fun _ => rfl
  stop := fun _ => trivial
  bind hx hf := hx.bind hf
  act _ := fun _ => rfl
  template _ := fun _ => rfl
  apart x := fun s => by
    rw [Run.apart, Run.within]
    cases x _ <;> trivial
  called hx frame := KeepsCallDepth.within (w := .call frame) hx
  inFrame hx := KeepsCallDepth.within (w := .frame) hx
  ofValue hx := hx
  seq hx hf := hx.bind hf
  declare _ _ := fun _ => rfl
  set _ _ := fun _ => rfl

/-! ## The counter over a step -/

/-- The step itself does not move the counter, and it enters the body of a
function only where there is room for another call. -/
def Step.Counts (ctx : Context H) (s : State) : Step H → Prop
  | .ends x => KeepsCallDepth x
  | .goes change _ => (change s).callDepth = s.callDepth
  | .opens _ => True
  | .part w _ _ => w.isCall = true → (s.callDepth : Int) < ctx.maxCallDepth

theorem Step.Form.counts {host : Host H} {fuel : Nat} {ctx : Context H} {s : State}
    {step : Step H} (h : step.Form host fuel ctx s) : step.Counts ctx s := by
  cases h with
  | asks name loc entry arguments =>
      exact discipline_callDepth.callHost name loc entry arguments
  | answers signal => exact discipline_callDepth.pure signal
  | expands t => exact discipline_callDepth.template t
  | raises fault => exact discipline_callDepth.raise fault
  | raisesTraced name count isHost fault => exact fun _ => rfl
  | stops => exact discipline_callDepth.stop
  | opens a => trivial
  | calls hroom bound a => exact fun _ => hroom
  | continues a => rfl
  | traces name count isHost a => rfl
  | stores target v a => rfl
  | declares target v a => rfl
  | _ =>
      intro hcall
      cases hcall

/-- However a run ends, as many calls are active as before. -/
theorem run_callDepth (host : Host H) (ctx : Context H) (fuel : Nat) (a : Activity H) :
    KeepsCallDepth (a.run host fuel ctx) := by
  refine Activity.induction host ctx (P := fun fuel a => KeepsCallDepth (a.run host fuel ctx))
    ?_ fuel a
  intro fuel a ih s
  have hbegins := ih s
  have hcounts := (next_form host fuel ctx s a).counts
  rw [run_eq_step]
  generalize next host fuel ctx a s = step at hbegins hcounts ⊢
  cases step with
  | ends x => exact hcounts s
  | opens b =>
      cases fuel with
      | zero => trivial
      | succ fuel => exact hbegins s
  | goes change b => exact (hbegins (change s)).mono fun t ht => ht.trans hcounts
  | part w b resume => exact hbegins.1.within.bind hbegins.2 s

/-! ## The counter at every point of a run -/

/-- The number of calls among the parts that are pending. -/
def activeCalls (pending : List (Pending H)) : Nat :=
  pending.countP fun p => p.surrounding.isCall

theorem activeCalls_concat (pending : List (Pending H)) (p : Pending H) :
    activeCalls (pending ++ [p]) =
      activeCalls pending + if p.surrounding.isCall then 1 else 0 := by
  simp only [activeCalls, List.countP_append, List.countP_singleton]

section Reaching

variable {host : Host H} {ctx : Context H} {n m : Nat} {a b : Activity H}
  {s u : State} {pending : List (Pending H)}

/-- Behind a part, the counter is as it was before it. -/
theorem callDepth_behind {w : Surrounding} {t : State} {signal : Signal}
    (hpart : b.run host n ctx (w.enter s) = .done signal t) :
    (w.leave s t).callDepth = s.callDepth := by
  have hkeeps := run_callDepth host ctx n b (w.enter s)
  rw [hpart] at hkeeps
  exact w.callDepth_leave hkeeps

/-- The counter has grown by the calls that are pending. -/
theorem callDepth_of_reaches (h : Reaches host ctx n a s pending m b u) :
    u.callDepth = s.callDepth + activeCalls pending := by
  induction h with
  | here => rfl
  | opens _ _ ih => exact ih
  | @goes n m a b c s u pending change hnext _ ih =>
      have hcounts := (next_form host n ctx s a).counts
      rw [hnext] at hcounts
      rw [ih, hcounts]
  | @into n m a b c s u pending w resume hnext _ ih =>
      rw [ih, activeCalls_concat, w.callDepth_enter, Nat.add_assoc,
        Nat.add_comm (activeCalls pending)]
  | onward _ hpart _ ih => rw [ih, callDepth_behind hpart]

/-- The counter stays within the limit, unless it was past it before. -/
theorem callDepth_le_of_reaches (h : Reaches host ctx n a s pending m b u) :
    (u.callDepth : Int) ≤ max (s.callDepth : Int) ctx.maxCallDepth := by
  induction h with
  | here => exact le_max_left _ _
  | opens _ _ ih => exact ih
  | @goes n m a b c s u pending change hnext _ ih =>
      have hcounts := (next_form host n ctx s a).counts
      rw [hnext] at hcounts
      rw [hcounts] at ih
      exact ih
  | @into n m a b c s u pending w resume hnext _ ih =>
      have hcounts := (next_form host n ctx s a).counts
      rw [hnext] at hcounts
      rw [w.callDepth_enter] at ih
      by_cases hcall : w.isCall = true
      · have hroom := hcounts hcall
        rw [if_pos hcall] at ih
        omega
      · rw [if_neg hcall] at ih
        exact ih
  | onward _ hpart _ ih =>
      rw [callDepth_behind hpart] at ih
      exact ih

end Reaching

/-! ## Calls that are refused -/

/-- An abort for the depth of calls. -/
def depthAbort (limit : Int) (loc : Option Loc) : Signal :=
  .abort ⟨.callDepthExceeded limit, loc⟩

/-- The call of a script's function ends at once: nothing is bound, nothing is
evaluated, and the state stays as it is. -/
def Refused (host : Host H) (ctx : Context H) (fuel : Nat) (a : Activity H) (s : State)
    (loc : Option Loc) : Prop :=
  next host fuel ctx a s = .ends (pure (depthAbort ctx.maxCallDepth loc))

theorem run_of_refused {host : Host H} {ctx : Context H} {fuel : Nat} {a : Activity H}
    {s : State} {loc : Option Loc} (h : Refused host ctx fuel a s loc) :
    a.run host fuel ctx s = .done (depthAbort ctx.maxCallDepth loc) s := by
  rw [run_eq_step, show next host fuel ctx a s = _ from h]
  rfl

/-- A call is refused exactly where as many calls are active as the limit says,
or more. -/
theorem refused_iff (host : Host H) (ctx : Context H) (fuel : Nat) (loc : Option Loc)
    (params : List Param) (body : Node) (arguments : List Value) (s : State) :
    Refused host ctx fuel (.script loc params body arguments) s loc ↔
      ctx.maxCallDepth ≤ s.callDepth := by
  unfold Refused
  show nextScript ctx loc params body arguments s = _ ↔ _
  constructor
  · intro h
    by_contra hroom
    unfold nextScript at h
    rw [if_neg hroom] at h
    split at h
    · next fault _ =>
      -- A fault in the parameters is no answer.
      have houtcome := congrFun (Step.ends.inj h) s
      cases houtcome
    · cases h
  · intro h
    unfold nextScript
    rw [if_pos h]
    rfl

/-- An abort for the depth of calls arises here: a call is refused, or a function
from outside reports that error. -/
inductive Exceeds (host : Host H) (ctx : Context H) (limit : Int) (loc : Option Loc) :
    Activity H → State → Prop
  | refused {params : List Param} {body : Node} {arguments : List Value} {s : State}
      (hlimit : limit = ctx.maxCallDepth) (h : ctx.maxCallDepth ≤ s.callDepth) :
      Exceeds host ctx limit loc (.script loc params body arguments) s
  | reported {name : String} {entry : H} {arguments : List Value} {s : State}
      (h : (host.call entry ctx.registry arguments s.world).1 =
        .error (.callDepthExceeded limit)) :
      Exceeds host ctx limit loc (.host name loc entry arguments) s

section Origin

variable {host : Host H} {ctx : Context H} {limit : Int} {loc : Option Loc}

/-- All that is left of the activity is to answer with the signal. -/
def Activity.Answers (signal : Signal) : Activity H → Prop
  | .finished answer => answer = signal
  | _ => False

/-- Where the step of an activity ends with the abort, it arises there; and the
step goes on to nothing that just answers it, unless a part has. -/
def Step.Blames (host : Host H) (ctx : Context H) (limit : Int) (loc : Option Loc)
    (a : Activity H) (s : State) : Step H → Prop
  | .ends x => ∀ t, x s = .done (depthAbort limit loc) t →
      a.Answers (depthAbort limit loc) ∨ Exceeds host ctx limit loc a s
  | .opens b => ¬b.Answers (depthAbort limit loc)
  | .goes _ b => ¬b.Answers (depthAbort limit loc)
  | .part _ b resume => ¬b.Answers (depthAbort limit loc) ∧
      ∀ first, (resume first).Answers (depthAbort limit loc) →
        first = depthAbort limit loc

/-- A step that ends with a signal of another kind. -/
theorem blames_pure {a : Activity H} {s : State} {signal : Signal}
    (h : signal ≠ depthAbort limit loc) :
    (Step.ends (pure signal)).Blames host ctx limit loc a s := by
  intro t hdone
  cases hdone
  exact absurd rfl h

/-- A part in a value slot: what answers the abort of a part was that of the part. -/
theorem blames_onValue {a b : Activity H} {s : State} {w : Surrounding}
    {resume : Value → Activity H} (hb : ¬b.Answers (depthAbort limit loc))
    (hresume : ∀ v, ¬(resume v).Answers (depthAbort limit loc)) :
    (Step.part w b (Activity.onValue resume)).Blames host ctx limit loc a s := by
  refine ⟨hb, fun first hfirst => ?_⟩
  cases first with
  | append v => exact absurd hfirst (hresume v)
  | proceed => cases hfirst
  | returned v => cases hfirst
  | cleared v => cases hfirst
  | abort failure => exact hfirst

theorem blames_nextControl (a : Activity H) (count : Nat) (node : Node) (s : State) :
    (nextControl count node).Blames host ctx limit loc a s := by
  cases node with
  | forEach target list body separator loc =>
      refine ⟨not_false, fun first hfirst => ?_⟩
      exact hfirst
  | ifThen condition body loc =>
      refine blames_onValue not_false fun v => ?_
      split
      · exact not_false
      · intro h
        cases h
  | ifElse condition trueBody falseBody loc => exact blames_onValue not_false fun v => not_false
  | whileLoop condition body loc => exact not_false
  | _ => exact blames_pure fun h => by cases h

theorem blames_nextOpen (a : Activity H) (node : Node) (s : State) :
    (nextOpen node).Blames host ctx limit loc a s := by
  have hoptional (wrap : Value → Signal) (held : Node)
      (hwrap : ∀ v, wrap v ≠ depthAbort limit loc) :
      (nextOptional wrap held).Blames host ctx limit loc a s := by
    unfold nextOptional
    split
    · exact blames_pure (hwrap _)
    · refine blames_onValue not_false fun v h => ?_
      exact hwrap v h
  cases node with
  | assign target held loc => exact blames_onValue not_false fun v => not_false
  | returnWith held loc => exact hoptional _ held fun v h => by cases h
  | clearWith held loc => exact hoptional _ held fun v h => by cases h
  | call name nodes loc => exact not_false
  | _ => exact blames_pure fun h => by cases h

theorem blames_nextInvoke (a : Activity H) (name : String) (place : Option Loc)
    (arguments : List Value) (s : State) :
    (nextInvoke ctx name place arguments).Blames host ctx limit loc a s := by
  unfold nextInvoke
  split
  · next e he =>
    refine blames_pure fun h => ?_
    -- Resolution has errors of its own.
    have herror : e = .callDepthExceeded limit := by
      cases h
      rfl
    rw [herror] at he
    unfold Registry.resolve at he
    split at he
    · cases he
    · cases he
    · split at he <;> cases he
  · dsimp only
    split
    · exact not_false
    · split
      · exact not_false
      · intro t h
        cases h

theorem blames_nextScript (place : Option Loc) (params : List Param) (body : Node)
    (arguments : List Value) (s : State) :
    (nextScript ctx place params body arguments s).Blames host ctx limit loc
      (.script place params body arguments) s := by
  unfold nextScript
  split
  · next hrefused =>
    intro t h
    cases h
    exact .inr (.refused rfl hrefused)
  · split
    · intro t h
      cases h
    · refine ⟨not_false, fun first hfirst => ?_⟩
      have hunwind : unwind first = depthAbort limit loc := hfirst
      cases first with
      | returned v => cases hunwind
      | _ => exact hunwind

theorem blames_callHost (fuel : Nat) (name : String) (place : Option Loc) (entry : H)
    (arguments : List Value) (s : State) :
    (next host fuel ctx (.host name place entry arguments) s).Blames host ctx limit loc
      (.host name place entry arguments) s := by
  intro t h
  right
  unfold callHost at h
  cases hreply : host.call entry ctx.registry arguments s.world with
  | mk reply world =>
      simp only [hreply] at h
      cases reply with
      | value v => cases h
      | fault fault => cases h
      | foreign kind => cases h
      | error e =>
          cases h
          exact .reported (by rw [hreply])
      | evaluate source =>
          obtain ⟨v, hv⟩ := signals_evalSource _ _ _ _ _ _ h
          cases hv

theorem next_blames (fuel : Nat) (a : Activity H) (s : State) :
    (next host fuel ctx a s).Blames host ctx limit loc a s := by
  cases a with
  | finished signal =>
      intro t h
      cases h
      exact .inl rfl
  | value node =>
      show ¬(Activity.inside (fuel - 1) node).Answers (depthAbort limit loc)
      intro h
      cases node <;> cases h
  | template t =>
      intro u h
      rcases expandPieces_cases s.stack Value.truthy t.pieces with ⟨v, hv⟩ | ⟨name, hname⟩
      · have hsignal := (Outcome.done.inj h).1
        rw [hv] at hsignal
        cases hsignal
      · have hsignal := (Outcome.done.inj h).1
        rw [hname] at hsignal
        cases hsignal
  | block executions =>
      refine ⟨not_false, fun first hfirst => ?_⟩
      exact hfirst
  | control count node => exact blames_nextControl _ count node s
  | statement node =>
      rw [next]
      split
      · refine ⟨not_false, fun first hfirst => ?_⟩
        have hsuppress : first.suppress = depthAbort limit loc := hfirst
        cases first with
        | append v => cases hsuppress
        | _ => exact hsuppress
      · exact blames_nextOpen _ node s
  | statements output executions =>
      cases executions with
      | nil => exact blames_pure fun h => by cases h
      | cons node rest =>
          refine ⟨not_false, fun first hfirst => ?_⟩
          cases first with
          | returned v => cases hfirst
          | abort failure => exact hfirst
          | _ => cases hfirst
  | store target v =>
      intro h
      cases h
  | call name loc values nodes =>
      cases nodes with
      | nil => exact blames_nextInvoke _ name loc values s
      | cons node rest => exact blames_onValue not_false fun v => not_false
  | host name loc entry arguments => exact blames_callHost fuel name loc entry arguments s
  | script loc params body arguments => exact blames_nextScript loc params body arguments s
  | loop target list body separator =>
      refine blames_onValue not_false fun items => ?_
      split <;> exact not_false
  | separated target body separator items => exact blames_onValue not_false fun sep => not_false
  | pieces target body output rest =>
      cases rest with
      | nil => exact blames_pure fun h => by cases h
      | cons text rest => exact blames_onValue not_false fun v => not_false
  | piece target text body => exact not_false
  | rounds condition body count output =>
      cases count with
      | zero =>
          intro t h
          cases h
      | succ count =>
          refine blames_onValue not_false fun v => ?_
          split
          · exact not_false
          · intro h
            cases h
  | round condition body count output => exact blames_onValue not_false fun w => not_false

/-- An abort for the depth of calls arises at some point of the run. -/
theorem exceeds_of_depthAbort {fuel : Nat} {a : Activity H} {s t : State}
    (h : a.run host fuel ctx s = .done (depthAbort limit loc) t)
    (ha : ¬a.Answers (depthAbort limit loc)) :
    ∃ pending m b u, Reaches host ctx fuel a s pending m b u ∧
      Exceeds host ctx limit loc b u := by
  refine Activity.induction host ctx (P := fun fuel a => ∀ s t,
    a.run host fuel ctx s = .done (depthAbort limit loc) t →
      ¬a.Answers (depthAbort limit loc) → ∃ pending m b u,
        Reaches host ctx fuel a s pending m b u ∧ Exceeds host ctx limit loc b u)
    ?_ fuel a s t h ha
  intro fuel a ih s t h ha
  have hbegins := ih s
  have hblames : (next host fuel ctx a s).Blames host ctx limit loc a s :=
    next_blames fuel a s
  have hdone := run_done h
  cases hnext : next host fuel ctx a s with
  | ends x =>
      rw [hnext] at hblames hdone
      rcases hblames t hdone with hfinished | hexceeds
      · exact absurd hfinished ha
      · exact ⟨[], fuel, a, s, .here, hexceeds⟩
  | opens b =>
      rw [hnext] at hblames hdone hbegins
      obtain ⟨n, rfl, hb⟩ := hdone
      obtain ⟨pending, m, c, u, hreach, hexceeds⟩ := hbegins s t hb hblames
      exact ⟨pending, m, c, u, .opens hnext hreach, hexceeds⟩
  | goes change b =>
      rw [hnext] at hblames hdone hbegins
      obtain ⟨pending, m, c, u, hreach, hexceeds⟩ := hbegins (change s) t hdone hblames
      exact ⟨pending, m, c, u, .goes hnext hreach, hexceeds⟩
  | part w b resume =>
      rw [hnext] at hblames hdone hbegins
      obtain ⟨first, v, hb, hrest⟩ := hdone
      by_cases hfinished : (resume first).Answers (depthAbort limit loc)
      · -- The abort is that of the part.
        have hfirst := hblames.2 first hfinished
        rw [hfirst] at hb
        obtain ⟨pending, m, c, u, hreach, hexceeds⟩ := hbegins.1 _ _ hb hblames.1
        exact ⟨_, m, c, u, .into hnext hreach, hexceeds⟩
      · obtain ⟨pending, m, c, u, hreach, hexceeds⟩ := hbegins.2 first _ _ hrest hfinished
        exact ⟨pending, m, c, u, .onward hnext hb hreach, hexceeds⟩

end Origin

/-- The guard of calls is exact.  Statements are executed by an evaluator that has
no call active.  At every point of the run the counter is the number of calls
that are active there; it lies between zero and the limit, and is zero where the
limit is negative.  However it ends what is evaluated at that point, with any
signal or with a fault, the counter is then as it was.  A call of a script's
function is refused, before anything is bound, exactly where the limit is reached:
with as many calls active as it says, and under a negative limit always.  And an
abort for the depth of calls comes from such a refusal, unless a function from
outside has reported the same error. -/
theorem call_depth_counts_active (host : Host H) (ctx : Context H)
    (executions : List Node) (n : Nat) {s : State} (hstart : s.callDepth = 0) :
    (∀ pending m b u,
      Reaches host ctx n (.statements Value.truthy executions) s pending m b u →
      u.callDepth = activeCalls pending ∧
      (0 ≤ ctx.maxCallDepth → (u.callDepth : Int) ≤ ctx.maxCallDepth) ∧
      (ctx.maxCallDepth < 0 → u.callDepth = 0) ∧
      ((b.run host m ctx u).Leaves fun t => t.callDepth = u.callDepth) ∧
      ∀ loc params body arguments, b = .script loc params body arguments →
        (Refused host ctx m b u loc →
          b.run host m ctx u = .done (depthAbort ctx.maxCallDepth loc) u) ∧
        (0 ≤ ctx.maxCallDepth →
          (Refused host ctx m b u loc ↔ (activeCalls pending : Int) = ctx.maxCallDepth)) ∧
        (ctx.maxCallDepth < 0 → Refused host ctx m b u loc)) ∧
    ∀ limit loc t,
      evaluate host (n + 1) ctx (.statements executions) s =
        .done (depthAbort limit loc) t →
      ∃ pending m b u,
        Reaches host ctx n (.statements Value.truthy executions) s pending m b u ∧
        ((∃ params body arguments, b = .script loc params body arguments ∧
            limit = ctx.maxCallDepth ∧ Refused host ctx m b u loc) ∨
          ∃ name entry arguments, b = .host name loc entry arguments ∧
            (host.call entry ctx.registry arguments u.world).1 =
              .error (.callDepthExceeded limit)) := by
  constructor
  · intro pending m b u hreach
    have hactive : u.callDepth = activeCalls pending := by
      rw [callDepth_of_reaches hreach, hstart, Nat.zero_add]
    have hle := callDepth_le_of_reaches hreach
    rw [hstart] at hle
    refine ⟨hactive, fun hlimit => ?_, fun hlimit => ?_, run_callDepth host ctx m b u, ?_⟩
    · omega
    · omega
    · rintro loc params body arguments rfl
      have hiff := refused_iff host ctx m loc params body arguments u
      refine ⟨run_of_refused, fun hlimit => ?_, fun hlimit => ?_⟩
      · rw [hiff]
        omega
      · rw [hiff]
        omega
  · intro limit loc t hrun
    obtain ⟨pending, m, b, u, hreach, hexceeds⟩ :=
      exceeds_of_depthAbort (a := .statements Value.truthy executions) hrun not_false
    refine ⟨pending, m, b, u, hreach, ?_⟩
    cases hexceeds with
    | @refused params body arguments _ hlimit h =>
        have hrefused := (refused_iff host ctx m loc params body arguments u).2 h
        exact .inl ⟨params, body, arguments, rfl, hlimit, hrefused⟩
    | reported h => exact .inr ⟨_, _, _, rfl, h⟩

/-- A function that calls itself. -/
def recursion : Node := .block [.call "f" [] none] none

/-- The registry of that function. -/
def recursive : Registry Empty := ⟨[("f", [⟨[], .script recursion, none⟩])]⟩

/-- The first call of the function leads to the second one. -/
theorem reaches_recursion :
    ∃ pending u, Reaches silent ⟨recursive, 1⟩ 1
        (.statements Value.truthy [.call "f" [] none]) {} pending 0
        (.script none [] recursion []) u ∧ activeCalls pending = 1 := by
  refine ⟨_, _, .into rfl (.goes rfl (.goes rfl (.into rfl (.opens rfl (.into rfl
    (.into rfl (.goes rfl (.goes rfl .here)))))))), rfl⟩

/-- Under a limit of one call, the second one is refused, with one active. -/
theorem call_depth_counts_active_recursion :
    ∃ pending u, Reaches silent ⟨recursive, 1⟩ 1
        (.statements Value.truthy [.call "f" [] none]) {} pending 0
        (.script none [] recursion []) u ∧
      activeCalls pending = 1 ∧ u.callDepth = 1 ∧
      Refused silent ⟨recursive, 1⟩ 0 (.script none [] recursion []) u none ∧
      (Activity.script none [] recursion []).run silent 0 ⟨recursive, 1⟩ u =
        .done (depthAbort 1 none) u := by
  have hguard := call_depth_counts_active silent ⟨recursive, 1⟩ [.call "f" [] none] 1
    (s := {}) rfl
  obtain ⟨pending, u, hreach, hactive⟩ := reaches_recursion
  obtain ⟨hcount, -, -, -, hscript⟩ := hguard.1 _ _ _ _ hreach
  obtain ⟨hrun, hiff, -⟩ := hscript none [] recursion [] rfl
  have hrefused := (hiff (by decide)).2 (by rw [hactive]; rfl)
  exact ⟨pending, u, hreach, hactive, hcount.trans hactive, hrefused, hrun hrefused⟩

/-- A function that does nothing. -/
def idle : Registry Empty := ⟨[("f", [⟨[], .script (.block [] none), none⟩])]⟩

/-- Under a negative limit the counter is past the limit from the beginning, and
a call is refused although the number of active calls is not the limit. -/
theorem negative_limit_refuses :
    ∃ pending m u t, Reaches silent ⟨idle, -5⟩ 0
        (.statements Value.truthy [.call "f" [] none]) {} pending m
        (.script none [] (.block [] none) []) u ∧
      u.callDepth = 0 ∧ ¬(u.callDepth : Int) ≤ -5 ∧ (activeCalls pending : Int) ≠ -5 ∧
      (Activity.script none [] (.block [] none) []).run silent m ⟨idle, -5⟩ u =
        .done (depthAbort (-5) none) u ∧
      evaluate silent 1 ⟨idle, -5⟩ (.statements [.call "f" [] none]) {} =
        .done (depthAbort (-5) none) t := by
  exact ⟨_, 0, _, _, .into rfl (.goes rfl (.goes rfl .here)), rfl, by decide, by decide,
    rfl, rfl⟩

end Evaluator

end TextShell
