import TextShell.Proofs.Eval.CallDepth

/-!
# The limits of evaluation

Evaluation is limited in two ways: by its fuel, which says nothing about the
program, and by the number of calls that may be active.  A run that stays within
its limits goes on in the same way under more generous ones.

Both limits are handled in one induction.  An outcome lies *below* another one if
it is the same, or if it came of a limit: the fuel was spent, or the answer is
an abort that is excused.  Nothing goes on behind an abort, so one that is excused
cannot be hidden inside an answer that is not.

## Main results

* `run_below` — with more fuel and a higher limit, a run comes to the same, unless
  it met one of its limits.
* `run_mono`, `evaluate_mono` — more fuel does not change what has ended.
* `higher_limit_changes_nothing` — a higher limit does not change a run that has
  stayed within the lower one.
-/

namespace TextShell

/-- The first outcome is the second one, unless it came of a limit: the fuel was
spent, or the answer is excused. -/
inductive Outcome.Below {α : Type} (excused : α → Prop) : Outcome α → Outcome α → Prop
  | same (o : Outcome α) : Below excused o o
  | outOfFuel (o : Outcome α) : Below excused .outOfFuel o
  | excused {answer : α} (h : excused answer) (t : State) (o : Outcome α) :
      Below excused (.done answer t) o

/-- Nothing is excused. -/
def never {α : Type} : α → Prop := fun _ => False

theorem Outcome.Below.eq_of_never {α : Type} {o o' : Outcome α} (h : o.Below never o')
    (ho : o ≠ .outOfFuel) : o' = o := by
  cases h with
  | same => rfl
  | outOfFuel => exact absurd rfl ho
  | excused h => exact h.elim

theorem Outcome.Below.weaken {α : Type} {excused : α → Prop} {o o' : Outcome α}
    (h : o.Below never o') : o.Below excused o' := by
  cases h with
  | same => exact .same o
  | outOfFuel => exact .outOfFuel o'
  | excused h => exact h.elim

namespace Run

variable {α β : Type}

/-- With no fuel left, or with the same outcome as the other run. -/
def Below (x y : Run α) : Prop := ∀ s, (x s).Below never (y s)

theorem Below.refl (x : Run α) : Below x x := fun s => .same (x s)

theorem Below.bind {x y : Run α} {f g : α → Run β} (hxy : Below x y)
    (hfg : ∀ a, Below (f a) (g a)) : Below (x >>= f) (y >>= g) := by
  intro s
  have hs := hxy s
  show (Run.bind x f s).Below never (Run.bind y g s)
  unfold Run.bind
  generalize x s = o at hs
  generalize y s = o' at hs
  cases hs with
  | same =>
      cases o with
      | done a t => exact hfg a t
      | raised fault t => exact .same _
      | outOfFuel => exact .same _
  | outOfFuel => exact .outOfFuel _
  | excused h => exact h.elim

theorem Below.within {enter : State → State} {leave : State → State → State}
    {x y : Run α} (hxy : Below x y) :
    Below (Run.within enter leave x) (Run.within enter leave y) := by
  intro s
  have hs := hxy (enter s)
  unfold Run.within
  generalize x (enter s) = o at hs
  generalize y (enter s) = o' at hs
  cases hs with
  | same => exact .same _
  | outOfFuel => exact .outOfFuel _
  | excused h => exact h.elim

end Run

namespace Evaluator

variable {H : Type}

/-! ## Functions from outside -/

section Source

variable {host : Host H} {eval eval' : Context H → Task → Run Signal}
  (heval : ∀ ctx executions,
    Run.Below (eval ctx (.statements executions)) (eval' ctx (.statements executions)))

include heval

theorem below_evalSource (ctx : Context H) (source : String) :
    Run.Below (evalSource eval ctx source) (evalSource eval' ctx source) := by
  unfold evalSource
  split
  · exact .refl _
  · refine .bind (.refl _) fun _ => ?_
    split
    · exact .refl _
    · split
      · exact .refl _
      · refine .bind (.refl _) fun _ => .bind ?_ fun signal => .refl _
        exact (heval _ _).within

/-- A function from outside may ask for the value of a source; everything else
that it does needs no fuel. -/
theorem below_callHost (ctx : Context H) (name : String) (loc : Option Loc) (entry : H)
    (arguments : List Value) :
    Run.Below (callHost host eval ctx name loc entry arguments)
      (callHost host eval' ctx name loc entry arguments) := by
  rw [callHost_eq, callHost_eq]
  refine .bind (.refl _) fun reply => ?_
  cases reply with
  | evaluate source => exact below_evalSource heval ctx source
  | value v => exact .refl _
  | error e => exact .refl _
  | fault fault => exact .refl _
  | foreign kind => exact .refl _

end Source

/-! ## Steps under two limits -/

/-- The second activity is the first one, with at least as many rounds. -/
inductive Activity.Extends : Activity H → Activity H → Prop
  | refl (a : Activity H) : Extends a a
  | control {n m : Nat} (h : n ≤ m) (node : Node) :
      Extends (.control n node) (.control m node)
  | rounds (condition body : Node) {n m : Nat} (h : n ≤ m) (output : Value) :
      Extends (.rounds condition body n output) (.rounds condition body m output)
  | round (condition body : Node) {n m : Nat} (h : n ≤ m) (output : Value) :
      Extends (.round condition body n output) (.round condition body m output)

theorem extends_inside {n m : Nat} (h : n ≤ m) (node : Node) :
    (Activity.inside n node : Activity H).Extends (.inside m node) := by
  unfold Activity.inside
  split
  · exact .refl _
  · exact .refl _
  · split
    · exact .control h _
    · exact .refl _

theorem extends_onValue {resume resume' : Value → Activity H}
    (h : ∀ v, (resume v).Extends (resume' v)) (signal : Signal) :
    (Activity.onValue resume signal).Extends (Activity.onValue resume' signal) := by
  cases signal with
  | append v => exact h v
  | _ => exact .refl _

/-- The second step does what the first one does, unless that meets a limit. -/
inductive Step.Below (excused : Signal → Prop) (s : State) : Step H → Step H → Prop
  | ends {x y : Run Signal} (h : (x s).Below excused (y s)) :
      Below excused s (.ends x) (.ends y)
  /-- The first step meets a limit by itself. -/
  | stops {x : Run Signal} (h : ∀ o, (x s).Below excused o) (step : Step H) :
      Below excused s (.ends x) step
  | opens {a b : Activity H} (h : a.Extends b) : Below excused s (.opens a) (.opens b)
  | goes (change : State → State) {a b : Activity H} (h : a.Extends b) :
      Below excused s (.goes change a) (.goes change b)
  | part (w : Surrounding) {a b : Activity H} {resume resume' : Signal → Activity H}
      (h : a.Extends b) (hresume : ∀ signal, (resume signal).Extends (resume' signal)) :
      Below excused s (.part w a resume) (.part w b resume')

theorem Step.Below.refl (excused : Signal → Prop) (s : State) (step : Step H) :
    step.Below excused s step := by
  cases step with
  | ends x => exact .ends (.same _)
  | opens a => exact .opens (.refl a)
  | goes change a => exact .goes change (.refl a)
  | part w a resume => exact .part w (.refl a) fun signal => .refl (resume signal)

/-- The limit of the context is raised to this one.  If it is a higher one, then
to exceed the lower one is excused, and so are aborts only. -/
structure Raises (excused : Signal → Prop) (ctx : Context H) (limit : Int) : Prop where
  aborts : ∀ signal, excused signal → ∃ failure, signal = .abort failure
  le : ctx.maxCallDepth ≤ limit
  exceeded : ctx.maxCallDepth < limit →
    ∀ loc, excused (depthAbort ctx.maxCallDepth loc)

theorem Raises.refl (ctx : Context H) : Raises never ctx ctx.maxCallDepth where
  aborts _ h := h.elim
  le := le_rfl
  exceeded h := absurd h (lt_irrefl _)

section Raised

variable {excused : Signal → Prop} {host : Host H} {ctx : Context H} {limit : Int}
  (hraises : Raises excused ctx limit)

include hraises

/-- A call is refused under the lower limit only, or treated alike. -/
theorem below_nextScript (loc : Option Loc) (params : List Param) (body : Node)
    (arguments : List Value) (s : State) :
    (nextScript ctx loc params body arguments s).Below excused s
      (nextScript { ctx with maxCallDepth := limit } loc params body arguments s) := by
  by_cases hlt : ctx.maxCallDepth < limit
  · by_cases hrefused : ctx.maxCallDepth ≤ s.callDepth
    · have hstep : nextScript ctx loc params body arguments s =
          .ends (pure (depthAbort ctx.maxCallDepth loc)) :=
        if_pos hrefused
      rw [hstep]
      exact .stops (fun o => .excused (hraises.exceeded hlt loc) s o) _
    · have hroom : ¬limit ≤ s.callDepth := by
        intro h
        exact hrefused (hraises.le.trans h)
      unfold nextScript
      rw [if_neg hrefused, if_neg hroom]
      exact .refl excused s _
  · have heq : limit = ctx.maxCallDepth := le_antisymm (not_lt.1 hlt) hraises.le
    rw [heq]
    exact .refl excused s _

variable {k n : Nat}
  (hsource : ∀ ctx executions, Run.Below (evaluate host n ctx (.statements executions))
    (evaluate host (k + n) ctx (.statements executions)))

include hsource

/-- Every step is below the one under the more generous limits. -/
theorem next_below {a b : Activity H} (hab : a.Extends b) (s : State) :
    (next host n ctx a s).Below excused s
      (next host (k + n) { ctx with maxCallDepth := limit } b s) := by
  cases hab with
  | refl =>
      cases a with
      | value node => exact .opens (extends_inside (by omega) node)
      | host name loc entry arguments =>
          exact .ends (below_callHost hsource ctx name loc entry arguments s).weaken
      | script loc params body arguments =>
          exact below_nextScript hraises loc params body arguments s
      | statements output executions =>
          cases executions <;> exact .refl excused s _
      | call name loc values nodes => cases nodes <;> exact .refl excused s _
      | pieces target body output rest => cases rest <;> exact .refl excused s _
      | rounds condition body count output => cases count <;> exact .refl excused s _
      | _ => exact .refl excused s _
  | @control j l h node =>
      cases node with
      | whileLoop condition body loc => exact .goes id (.rounds condition body h _)
      | _ => exact .refl excused s _
  | @rounds condition body j l h output =>
      cases j with
      | zero => exact .stops (fun o => .outOfFuel o) _
      | succ j =>
          obtain ⟨l, rfl⟩ : ∃ l', l = l' + 1 := ⟨l - 1, by omega⟩
          refine .part .here (.refl _) (extends_onValue fun v => ?_)
          split
          · exact .round condition body (by omega) output
          · exact .refl _
  | @round condition body j l h output =>
      exact .part .frame (.refl _)
        (extends_onValue fun w => .rounds condition body h (output.append w))

omit hsource in
/-- What a pending activity makes of an outcome lies below what it makes of the
other one: behind an abort that is excused, it is finished. -/
theorem below_settle {a b : Activity H} {w : Surrounding}
    {resume resume' : Signal → Activity H} {s : State}
    (hnext : next host n ctx a s = .part w b resume) {o o' : Outcome Signal}
    (ho : o.Below excused o')
    (hrest : ∀ signal u, ((resume signal).run host n ctx u).Below excused
      ((resume' signal).run host (k + n) { ctx with maxCallDepth := limit } u)) :
    ((Pending.mk w s n resume).settle host ctx o).Below excused
      ((Pending.mk w s (k + n) resume').settle host
        { ctx with maxCallDepth := limit } o') := by
  cases ho with
  | same =>
      cases o with
      | done signal t => exact hrest signal _
      | raised fault t => exact .same _
      | outOfFuel => exact .same _
  | outOfFuel => exact .outOfFuel _
  | @excused signal hexcused t =>
      obtain ⟨failure, rfl⟩ := hraises.aborts signal hexcused
      have hpasses := (next_form host n ctx s a).passesOn (.abort failure)
      rw [hnext] at hpasses
      have hfinished : resume (.abort failure) = .finished (.abort failure) := by
        rw [show resume (.abort failure) = _ from hpasses]
        cases w <;> rfl
      show Outcome.Below excused ((resume (.abort failure)).run host n ctx _) _
      rw [hfinished]
      exact .excused hexcused _ _

/-- One step of the induction: what the activity begins lies below, and so does
the activity. -/
theorem below_of_begins {a : Activity H}
    (hbegins : ∀ s, (next host n ctx a s).Begins (fun n a => ∀ b, a.Extends b → ∀ s,
      (a.run host n ctx s).Below excused
        (b.run host (k + n) { ctx with maxCallDepth := limit } s)) n)
    (b : Activity H) (hab : a.Extends b) (s : State) :
    (a.run host n ctx s).Below excused
      (b.run host (k + n) { ctx with maxCallDepth := limit } s) := by
  have hstep := next_below hraises hsource hab s
  have hbegun := hbegins s
  have hrun := run_eq_step host n ctx a s
  have hrun' := run_eq_step host (k + n) { ctx with maxCallDepth := limit } b s
  generalize hnext : next host n ctx a s = step at hstep hbegun hrun
  generalize hnext' : next host (k + n) { ctx with maxCallDepth := limit } b s =
    step' at hstep hrun'
  cases hstep with
  | ends h =>
      rw [hrun, hrun']
      exact h
  | stops h =>
      rw [hrun]
      exact h _
  | @goes change c c' h =>
      rw [hrun, hrun']
      exact hbegun c' h (change s)
  | @opens c c' h =>
      rw [hrun, hrun']
      cases n with
      | zero => exact .outOfFuel _
      | succ n => exact hbegun c' h s
  | @part w c c' resume resume' h hresume =>
      rw [run_of_part hnext, run_of_part hnext']
      exact below_settle hraises hnext (hbegun.1 c' h _)
        fun signal u => hbegun.2 signal _ (hresume signal) u

end Raised

/-! ## More fuel and a higher limit -/

/-- With more fuel and a higher limit, a run comes to the same, unless it met one
of its limits. -/
theorem run_below (host : Host H) (k n : Nat) {excused : Signal → Prop} {ctx : Context H}
    {limit : Int} (hraises : Raises excused ctx limit) {a b : Activity H}
    (hab : a.Extends b) (s : State) :
    (a.run host n ctx s).Below excused
      (b.run host (k + n) { ctx with maxCallDepth := limit } s) := by
  -- The context is general: with less fuel, a source may be evaluated in another.
  induction n generalizing excused ctx limit a b s with
  | zero =>
      have hsource (ctx : Context H) (executions : List Node) :
          Run.Below (evaluate host 0 ctx (.statements executions))
            (evaluate host (k + 0) ctx (.statements executions)) :=
        fun s => .outOfFuel _
      have hstep (a : Activity H) := below_of_begins hraises hsource (a := a)
      have hvalue (node : Node) := hstep (.value node) fun s => trivial
      exact forall_of_value hstep hvalue a b hab s
  | succ n ih =>
      have hsource (ctx : Context H) (executions : List Node) :
          Run.Below (evaluate host (n + 1) ctx (.statements executions))
            (evaluate host (k + (n + 1)) ctx (.statements executions)) :=
        ih (Raises.refl ctx) (.refl (.statements Value.truthy executions))
      have hstep (a : Activity H) := below_of_begins hraises hsource (a := a)
      have hvalue (node : Node) := hstep (.value node) fun s b hab s => ih hraises hab s
      exact forall_of_value hstep hvalue a b hab s

section More

variable {host : Host H} {ctx : Context H} {n m : Nat}

/-- More fuel, and more rounds, do not change what has ended. -/
theorem run_mono {a b : Activity H} {s : State} (hab : a.Extends b) (hnm : n ≤ m)
    (h : a.run host n ctx s ≠ .outOfFuel) : b.run host m ctx s = a.run host n ctx s := by
  obtain ⟨k, rfl⟩ : ∃ k, m = k + n := ⟨m - n, by omega⟩
  exact (run_below host k n (Raises.refl ctx) hab s).eq_of_never h

/-- More fuel does not change a list of statements that has ended. -/
theorem evaluate_mono {executions : List Node} {s : State} (hnm : n ≤ m)
    (h : evaluate host n ctx (.statements executions) s ≠ .outOfFuel) :
    evaluate host m ctx (.statements executions) s =
      evaluate host n ctx (.statements executions) s := by
  cases n with
  | zero => exact absurd rfl h
  | succ n =>
      obtain ⟨m, rfl⟩ : ∃ m', m = m' + 1 := ⟨m - 1, by omega⟩
      exact run_mono (.refl (.statements Value.truthy executions)) (by omega) h

end More

theorem raises_of_le (registry : Registry H) {d d' : Int} (h : d ≤ d') :
    Raises (fun signal => ∃ limit loc, signal = depthAbort limit loc) ⟨registry, d⟩ d' where
  aborts signal hsignal := by
    obtain ⟨limit, loc, rfl⟩ := hsignal
    exact ⟨_, rfl⟩
  le := h
  exceeded _ loc := ⟨d, loc, rfl⟩

/-- A higher limit does not change a run that has stayed within the lower one.
If statements end with a signal that is no abort for the depth of calls, then
under a higher limit, and with at least as much fuel, they end with the same
signal and in the same state: with the same globals, and with the same effects
on the world.  This is so for every state that they begin in, and whatever the
host functions do. -/
theorem higher_limit_changes_nothing (host : Host H) (registry : Registry H) {d d' : Int}
    (hd : d ≤ d') (executions : List Node) (s : State) {n m : Nat} (hnm : n ≤ m)
    {signal : Signal} {t : State}
    (hrun : evaluate host n ⟨registry, d⟩ (.statements executions) s = .done signal t)
    (hsignal : ∀ limit loc, signal ≠ depthAbort limit loc) :
    evaluate host m ⟨registry, d'⟩ (.statements executions) s = .done signal t := by
  cases n with
  | zero => cases hrun
  | succ n =>
      obtain ⟨k, rfl⟩ : ∃ k, m = k + (n + 1) := ⟨m - (n + 1), by omega⟩
      have hbelow := run_below host k n (raises_of_le registry hd)
        (.refl (.statements Value.truthy executions)) s
      have hlow : (Activity.statements Value.truthy executions).run host n ⟨registry, d⟩ s =
          .done signal t := hrun
      rw [hlow] at hbelow
      generalize hhigh : (Activity.statements Value.truthy executions).run host (k + n)
        ⟨registry, d'⟩ s = o at hbelow
      cases hbelow with
      | same => exact hhigh
      | excused h =>
          obtain ⟨limit, loc, hexceeded⟩ := h
          exact absurd hexceeded (hsignal limit loc)

/-- A function that calls another one, which returns. -/
def nested : Registry Empty :=
  ⟨[("f", [⟨[], .script (.block [.call "g" [] none] none), none⟩]),
    ("g", [⟨[], .script (.block [.returnWith .absent none] none), none⟩])]⟩

/-- An assignment that takes two calls at a time ends under a limit of two, and
in the same way under a limit of seven; a limit of one it does not stay within. -/
theorem higher_limit_changes_nothing_nested :
    let executions : List Node := [.assign "x" (.block [.call "f" [] none] none) none]
    ∃ t, evaluate silent 4 ⟨nested, 2⟩ (.statements executions) {} =
        .done (.append Value.truthy) t ∧
      t.stack.globals.get? "x" = some Value.truthy ∧
      evaluate silent 9 ⟨nested, 7⟩ (.statements executions) {} =
        .done (.append Value.truthy) t ∧
      ∃ u, evaluate silent 4 ⟨nested, 1⟩ (.statements executions) {} =
        .done (depthAbort 1 none) u := by
  intro executions
  have hlow : ∃ t, evaluate silent 4 ⟨nested, 2⟩ (.statements executions) {} =
      .done (.append Value.truthy) t ∧ t.stack.globals.get? "x" = some Value.truthy :=
    ⟨_, rfl, rfl⟩
  obtain ⟨t, hrun, hglobal⟩ := hlow
  have hhigh : evaluate silent 9 ⟨nested, 7⟩ (.statements executions) {} =
      .done (.append Value.truthy) t :=
    higher_limit_changes_nothing silent nested (by decide) executions {} (by decide) hrun
      fun limit loc h => by cases h
  exact ⟨t, hrun, hglobal, hhigh, _, rfl⟩

end Evaluator

end TextShell
