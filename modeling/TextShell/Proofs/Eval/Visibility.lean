import TextShell.Proofs.Eval.Frames

/-!
# Evaluation sees what is visible

Two stacks look alike if they have the same globals and each name that a frame
binds has the same value in the innermost frame that binds it.  Evaluation
cannot tell such stacks apart: it answers the same, does the same to the world
and leaves stacks that look alike again.

That is not enough to go through an induction: when a frame is dropped, a
binding that it has hidden comes into sight, and two stacks that merely looked
alike may differ in it.  But a construct drops only frames that it has pushed
itself, and those are the same on both sides.  `SameView k` says so: the `k`
innermost frames are equal, and the rest look alike.

## Main results

* `SameView.setInFrames?` — assignment keeps the relation.
* `discipline_alike` — evaluation keeps it, in every slot.
* `evaluation_sees_visible_only` — states that look alike evaluate alike.
-/

namespace TextShell

namespace Scope

/-- The scopes bind the same names to the same values. -/
def SameBindings (a b : Scope) : Prop := ∀ name, a.get? name = b.get? name

theorem SameBindings.contains {a b : Scope} (h : a.SameBindings b)
    (name : String) : a.contains name = b.contains name := by
  simp only [Scope.contains, h name]

theorem SameBindings.put {a b : Scope} (h : a.SameBindings b)
    (name : String) (value : Value) :
    (a.put name value).SameBindings (b.put name value) := by
  intro other
  rw [get?_put, get?_put, h other]

end Scope

namespace ScopeStack

/-- What the frames show of each name: its value in the innermost frame that
binds it. -/
def localView (stack : ScopeStack) (name : String) : Option Value :=
  getInFrames? name stack.frames

theorem setInFrames?_eq_none_iff {name : String} {value : Value}
    {frames : List Scope} :
    setInFrames? name value frames = none ↔ getInFrames? name frames = none := by
  induction frames with
  | nil => simp [setInFrames?, getInFrames?]
  | cons frame outer ih =>
      cases hframe : frame.get? name with
      | none => simp [setInFrames?, getInFrames?, Scope.contains, hframe, ih]
      | some held => simp [setInFrames?, getInFrames?, Scope.contains, hframe]

/-- A changed binding is seen at its name, and nowhere else. -/
theorem getInFrames?_setInFrames? {name : String} {value : Value}
    {frames changed : List Scope}
    (h : setInFrames? name value frames = some changed) (other : String) :
    getInFrames? other changed =
      if other = name then some value else getInFrames? other frames := by
  induction frames generalizing changed with
  | nil => simp [setInFrames?] at h
  | cons frame outer ih =>
      by_cases hframe : frame.contains name = true
      · obtain rfl : frame.put name value :: outer = changed := by
          simpa [setInFrames?, hframe] using h
        by_cases hother : other = name
        · simp [getInFrames?, hother]
        · simp [getInFrames?, frame.get?_put_of_ne value hother, hother]
      · obtain ⟨rest, hrest, rfl⟩ : ∃ rest,
            setInFrames? name value outer = some rest ∧ frame :: rest = changed := by
          simpa [setInFrames?, hframe] using h
        by_cases hother : other = name
        · subst hother
          have hnone : frame.get? other = none := by
            simpa [Scope.contains] using hframe
          simpa [getInFrames?, hnone] using ih hrest
        · simp only [getInFrames?, ih hrest, hother, if_false]

/-- The `k` innermost frames are the same in both lists, and those behind them
show the same. -/
inductive SameView : Nat → List Scope → List Scope → Prop
  | view {a b : List Scope}
      (h : ∀ name, getInFrames? name a = getInFrames? name b) : SameView 0 a b
  | frame {k : Nat} {a b : List Scope} (frame : Scope) (h : SameView k a b) :
      SameView (k + 1) (frame :: a) (frame :: b)

namespace SameView

variable {k : Nat} {a b : List Scope}

theorem getInFrames? (h : SameView k a b) (name : String) :
    ScopeStack.getInFrames? name a = ScopeStack.getInFrames? name b := by
  induction h with
  | view h => exact h name
  | frame frame _ ih => simp only [ScopeStack.getInFrames?, ih]

theorem tail (h : SameView (k + 1) a b) : SameView k a.tail b.tail := by
  cases h with
  | frame _ h => exact h

/-- Assignment finds the name in both lists or in neither, and keeps the
relation. -/
theorem setInFrames? (h : SameView k a b) (name : String) (value : Value) :
    Option.Rel (SameView k) (ScopeStack.setInFrames? name value a)
      (ScopeStack.setInFrames? name value b) := by
  induction h with
  | @view a b h =>
      cases ha : ScopeStack.setInFrames? name value a with
      | none =>
          have hb : ScopeStack.setInFrames? name value b = none := by
            rw [setInFrames?_eq_none_iff, ← h name,
              ← setInFrames?_eq_none_iff, ha]
          rw [hb]
          exact .none
      | some a' =>
          cases hb : ScopeStack.setInFrames? name value b with
          | none =>
              rw [setInFrames?_eq_none_iff, ← h name,
                ← @setInFrames?_eq_none_iff name value, ha] at hb
              exact absurd hb (by simp)
          | some b' =>
              refine .some (.view fun other => ?_)
              rw [getInFrames?_setInFrames? ha, getInFrames?_setInFrames? hb,
                h other]
  | @frame k a b frame h ih =>
      simp only [ScopeStack.setInFrames?]
      split
      · exact .some (.frame _ h)
      · generalize ScopeStack.setInFrames? name value a = a' at ih ⊢
        generalize ScopeStack.setInFrames? name value b = b' at ih ⊢
        cases ih with
        | none => exact .none
        | some h => exact .some (.frame frame h)

end SameView

/-- The stacks have the same globals, and frames that show the same. -/
structure Alike (k : Nat) (s t : ScopeStack) : Prop where
  globals : s.globals.SameBindings t.globals
  frames : SameView k s.frames t.frames

namespace Alike

variable {k : Nat} {s t : ScopeStack}

theorem get? (h : Alike k s t) (name : String) :
    s.get? name = t.get? name := by
  simp only [ScopeStack.get?, h.frames.getInFrames? name, h.globals name]

theorem push (h : Alike k s t) : Alike (k + 1) s.push t.push :=
  ⟨h.globals, h.frames.frame {}⟩

theorem pop (h : Alike (k + 1) s t) :
    Alike k ⟨s.globals, s.frames.tail⟩ ⟨t.globals, t.frames.tail⟩ :=
  ⟨h.globals, h.frames.tail⟩

theorem declare (h : Alike (k + 1) s t) (name : String) (value : Value) :
    Alike (k + 1) (s.declare name value) (t.declare name value) := by
  obtain ⟨globals, frames⟩ := s
  obtain ⟨globals', frames'⟩ := t
  obtain ⟨hglobals, hframes⟩ := h
  cases hframes with
  | frame frame h => exact ⟨hglobals, .frame _ h⟩

theorem set (h : Alike (k + 1) s t) (name : String) (value : Value) :
    Alike (k + 1) (s.set name value) (t.set name value) := by
  have hrel := h.frames.setInFrames? name value
  unfold ScopeStack.set
  generalize setInFrames? name value s.frames = changed at hrel ⊢
  generalize setInFrames? name value t.frames = changed' at hrel ⊢
  cases hrel with
  | some hframes => exact ⟨h.globals, hframes⟩
  | none =>
      dsimp only
      rw [h.globals.contains name]
      split
      · exact ⟨h.globals.put name value, h.frames⟩
      · exact h.declare name value

end Alike

end ScopeStack

namespace Evaluator

/-- A template reads the stack through the values of names only. -/
theorem expandPieces_congr {s t : ScopeStack}
    (h : ∀ name, s.get? name = t.get? name) (output : Value)
    (pieces : List (RegionKind × String)) :
    expandPieces s output pieces = expandPieces t output pieces := by
  induction pieces generalizing output with
  | nil => rfl
  | cons piece rest ih =>
      obtain ⟨kind, text⟩ := piece
      cases kind with
      | literal => exact ih _
      | «variable» =>
          simp only [expandPieces, h text]
          cases t.get? text with
          | none => rfl
          | some v => exact ih _

end Evaluator

/-! ## Two runs side by side -/

/-- Both runs end in the same way, with the same answer and in states that are
related, or neither ends. -/
inductive Outcome.Match {α : Type} (R : State → State → Prop) :
    Outcome α → Outcome α → Prop
  | done (answer : α) {s t : State} (h : R s t) :
      Match R (.done answer s) (.done answer t)
  | raised (fault : Fault) {s t : State} (h : R s t) :
      Match R (.raised fault s) (.raised fault t)
  | outOfFuel : Match R .outOfFuel .outOfFuel

theorem Outcome.Match.mono {α : Type} {R Q : State → State → Prop}
    {o o' : Outcome α} (h : o.Match R o') (hRQ : ∀ s t, R s t → Q s t) :
    o.Match Q o' := by
  cases h with
  | done answer h => exact .done answer (hRQ _ _ h)
  | raised fault h => exact .raised fault (hRQ _ _ h)
  | outOfFuel => exact .outOfFuel

theorem Outcome.Match.refl {α : Type} (o : Outcome α) : o.Match Eq o := by
  cases o with
  | done answer s => exact .done answer rfl
  | raised fault s => exact .raised fault rfl
  | outOfFuel => exact .outOfFuel

namespace Run

variable {α β : Type} {R Q : State → State → Prop}

/-- From related states the run ends in related states, and answers the same. -/
def Matches (R : State → State → Prop) (x : Run α) : Prop :=
  ∀ s t, R s t → (x s).Match R (x t)

theorem Matches.bind {x : Run α} {f : α → Run β} (hx : Matches R x)
    (hf : ∀ a, Matches R (f a)) : Matches R (x >>= f) := by
  intro s t h
  have hst := hx s t h
  change (Run.bind x f s).Match R (Run.bind x f t)
  unfold Run.bind
  generalize x s = o at hst ⊢
  generalize x t = o' at hst ⊢
  cases hst with
  | done a h => exact hf a _ _ h
  | raised fault h => exact .raised fault h
  | outOfFuel => exact .outOfFuel

/-- Runs from other states, behind which the states are put together anew. -/
theorem match_within {enter : State → State} {leave : State → State → State}
    {x : Run α} {s t : State} (hx : (x (enter s)).Match R (x (enter t)))
    (h : ∀ u v, R u v → Q (leave s u) (leave t v)) :
    (Run.within enter leave x s).Match Q (Run.within enter leave x t) := by
  unfold Run.within
  generalize x (enter s) = o at hx ⊢
  generalize x (enter t) = o' at hx ⊢
  cases hx with
  | done a hR => exact .done a (h _ _ hR)
  | raised fault hR => exact .raised fault (h _ _ hR)
  | outOfFuel => exact .outOfFuel

end Run

/-! ## States that look alike -/

namespace State

/-- The states differ at most in their frames. -/
structure Shares (s t : State) : Prop where
  globals : s.stack.globals.SameBindings t.stack.globals
  callDepth : s.callDepth = t.callDepth
  world : s.world = t.world

/-- The states differ at most in bindings that are hidden, and in how their
bindings are spread over frames. -/
structure LooksLike (s t : State) : Prop extends Shares s t where
  localView : ∀ name, s.stack.localView name = t.stack.localView name

/-- The states look alike, and their `k` innermost frames are the same. -/
structure Alike (k : Nat) (s t : State) : Prop extends Shares s t where
  frames : ScopeStack.SameView k s.stack.frames t.stack.frames

variable {k : Nat} {s t : State}

theorem Alike.stack (h : Alike k s t) : s.stack.Alike k t.stack :=
  ⟨h.globals, h.frames⟩

theorem Alike.with_stack (h : Alike k s t) {j : Nat} {a b : ScopeStack}
    (hab : a.Alike j b) :
    Alike j { s with stack := a } { t with stack := b } :=
  ⟨⟨hab.globals, h.callDepth, h.world⟩, hab.frames⟩

theorem Alike.looksLike (h : Alike 0 s t) : s.LooksLike t :=
  ⟨h.toShares, h.frames.getInFrames?⟩

theorem LooksLike.alike (h : s.LooksLike t) : Alike 0 s t :=
  ⟨h.toShares, .view h.localView⟩

end State

namespace Evaluator

open Run (Matches match_within)
open State (Alike LooksLike Shares)

/-- A call sees nothing of the frames of its caller, and gives them back. -/
theorem match_called {α : Type} {x : Run α} (hx : ∀ k, Matches (Alike k) x)
    (frame : Scope) {s t : State} (h : s.Shares t) :
    (Run.called frame x s).Match (fun u v => u.Shares v ∧
      u.stack.frames = s.stack.frames ∧ v.stack.frames = t.stack.frames)
      (Run.called frame x t) := by
  refine match_within (hx 1 _ _ ⟨⟨h.globals, ?_, h.world⟩, ?_⟩)
    fun u v huv => ⟨⟨huv.globals, ?_, huv.world⟩, rfl, rfl⟩
  · exact congrArg (· + 1) h.callDepth
  · exact .frame frame (.view fun _ => rfl)
  · exact congrArg (· - 1) huv.callDepth

/-- Evaluation cannot tell states apart that look alike, and leaves equal what
is equal of their frames. -/
theorem discipline_alike :
    Discipline (fun _ x => ∀ k, Matches (Alike k) x)
      fun _ x => ∀ k, Matches (Alike (k + 1)) x where
  pure a := fun _ _ _ h => .done a h
  raise fault := fun _ _ _ h => .raised fault h
  stop := fun _ _ _ _ => .outOfFuel
  bind hx hf := fun k => (hx k).bind fun a => hf a k
  act g := by
    intro k s t h
    change Outcome.Match _ (.done _ _) (.done _ _)
    rw [h.callDepth, h.world]
    exact .done _ ⟨⟨h.globals, rfl, rfl⟩, h.frames⟩
  template tpl := by
    intro k s t h
    change Outcome.Match _ (.done _ _) (.done _ _)
    rw [expandPieces_congr h.stack.get?]
    exact .done _ h
  apart x := by
    intro k s t h
    refine match_within (R := Eq) ?_ fun u v huv => ?_
    · rw [h.world]
      exact .refl _
    · subst huv
      exact ⟨⟨h.globals, h.callDepth, rfl⟩, h.frames⟩
  called hx frame := fun k s t h =>
    (match_called hx frame h.toShares).mono fun u v ⟨huv, hu, hv⟩ =>
      ⟨huv, by rw [hu, hv]; exact h.frames⟩
  inFrame hx := fun k s t h =>
    match_within (hx k _ _ (h.with_stack h.stack.push)) fun u v huv =>
      huv.with_stack huv.stack.pop
  ofValue hx := fun k => hx (k + 1)
  seq hx hf := fun k => (hx k).bind fun a => hf a k
  declare name v := fun k s t h =>
    .done () (h.with_stack (h.stack.declare name v))
  set name v := fun k s t h => .done () (h.with_stack (h.stack.set name v))

/-- What two runs leave behind, from `s` and `t`: states that look alike, and
in each of them the bindings that were hidden, as they were. -/
structure Undisturbed (s t u v : State) : Prop where
  looksLike : u.LooksLike v
  left : ScopeStack.KeepsShadowed s.stack.frames u.stack.frames
  right : ScopeStack.KeepsShadowed t.stack.frames v.stack.frames

theorem match_undisturbed {α : Type} {x : Run α}
    (halike : ∀ k, Matches (Alike k) x)
    (hleads : Run.Leads (ScopeStack.Evolves []) x) {s t : State}
    (h : s.LooksLike t) : (x s).Match (Undisturbed s t) (x t) := by
  have hs := hleads s
  have ht := hleads t
  have hmatch := halike 0 s t h.alike
  generalize x s = o at hs hmatch ⊢
  generalize x t = o' at ht hmatch ⊢
  cases hmatch with
  | done a huv =>
      exact .done a ⟨huv.looksLike, hs.keepsShadowed, ht.keepsShadowed⟩
  | raised fault huv =>
      exact .raised fault ⟨huv.looksLike, hs.keepsShadowed, ht.keepsShadowed⟩
  | outOfFuel => exact .outOfFuel

/-- A call of a script's function depends on its arguments and on what is
shared, and gives its caller's frames back. -/
theorem match_callScript {H : Type} {eval : Context H → Task → Run Signal}
    {ctx : Context H}
    (heval : ∀ ctx node k, Matches (Alike k) (eval ctx (.value node)))
    (loc : Option Loc) (params : List Param) (body : Node)
    (arguments : List Value) {s t : State} (h : s.Shares t) :
    (callScript eval ctx loc params body arguments s).Match (fun u v =>
      u.Shares v ∧ u.stack.frames = s.stack.frames ∧
        v.stack.frames = t.stack.frames)
      (callScript eval ctx loc params body arguments t) := by
  unfold callScript
  rw [h.callDepth]
  split
  · exact .done _ ⟨h, rfl, rfl⟩
  · split
    · exact .raised _ ⟨h, rfl, rfl⟩
    · have hcalled := match_called (heval ctx body) (by assumption) h
      generalize Run.called _ (eval ctx (.value body)) s = o at hcalled ⊢
      generalize Run.called _ (eval ctx (.value body)) t = o' at hcalled ⊢
      cases hcalled with
      | done signal h => cases signal <;> exact .done _ h
      | raised fault h => exact .raised fault h
      | outOfFuel => exact .outOfFuel

/-- Bindings that are not visible neither influence evaluation nor are changed
by it.  States that look alike give the same answer, the same world and states
that look alike again, or do not end alike; bindings that were hidden stay as
they were.  A call of a script's function does not even depend on what the
frames of the caller show, and leaves them as they are. -/
theorem evaluation_sees_visible_only {H : Type} (host : Host H)
    (fuel rounds : Nat) (ctx : Context H) {s t : State}
    (h : s.LooksLike t) :
    (∀ node,
      (evalValue host (evaluate host fuel) ctx rounds node s).Match
        (Undisturbed s t)
        (evalValue host (evaluate host fuel) ctx rounds node t)) ∧
    (∀ name nodes loc,
      (evalCall host (evaluate host fuel) ctx name nodes loc s).Match
        (Undisturbed s t)
        (evalCall host (evaluate host fuel) ctx name nodes loc t)) ∧
    ∀ t' : State, s.Shares t' → ∀ loc params body arguments,
      (callScript (evaluate host fuel) ctx loc params body arguments s).Match
        (fun u v => u.Shares v ∧ u.stack.frames = s.stack.frames ∧
          v.stack.frames = t'.stack.frames)
        (callScript (evaluate host fuel) ctx loc params body arguments t') := by
  have halike := discipline_alike.evaluate host fuel
  have hevolves := discipline_evolves.evaluate host fuel
  refine ⟨fun node => ?_, fun name nodes loc => ?_, fun t' ht' => ?_⟩
  · exact match_undisturbed (discipline_alike.evalValue halike rounds node)
      (discipline_evolves.evalValue hevolves rounds node) h
  · exact match_undisturbed (discipline_alike.evalCall halike name nodes loc)
      (discipline_evolves.evalCall hevolves name nodes loc) h
  · intro loc params body arguments
    exact match_callScript halike loc params body arguments ht'

/-- With and without a hidden binding of `x`, a block assigns to the visible
one and reads it; and a function is called that does the same, with and without
frames under it. -/
theorem evaluation_sees_visible_only_hidden :
    let s : State := { stack := { frames :=
      [⟨[("x", ⟨"inner", 0⟩)]⟩, ⟨[("x", ⟨"outer", 1⟩)]⟩] } }
    let t : State := { stack := { frames := [⟨[("x", ⟨"inner", 0⟩)]⟩] } }
    let host : Host Empty := ⟨fun entry => entry.elim⟩
    let ctx : Context Empty := ⟨{}, 1⟩
    let body : Node := .block
      [.assign "x" (.template ⟨"new", [⟨.literal, 0, 3⟩]⟩) none,
        .clearWith (.template ⟨"x", [⟨.variable, 0, 1⟩]⟩) none] none
    s.LooksLike t ∧ s.Shares {} ∧
      (evalValue host (evaluate host 3) ctx 3 body s).Match (Undisturbed s t)
        (evalValue host (evaluate host 3) ctx 3 body t) ∧
      (callScript (evaluate host 3) ctx none [⟨"x", false⟩] body [⟨"", 0⟩] s).Match
        (fun u v => u.Shares v ∧ u.stack.frames = s.stack.frames ∧
          v.stack.frames = [])
        (callScript (evaluate host 3) ctx none [⟨"x", false⟩] body [⟨"", 0⟩] {}) := by
  intro s t host ctx body
  have hview : ∀ name, s.stack.localView name = t.stack.localView name := by
    intro name
    by_cases hname : name = "x"
    · subst hname
      rfl
    · simp [s, t, ScopeStack.localView, ScopeStack.getInFrames?, Scope.get?,
        List.lookup, beq_eq_false_iff_ne.2 hname]
  have hlike : s.LooksLike t := ⟨⟨fun _ => rfl, rfl, rfl⟩, hview⟩
  have hshares : s.Shares {} := ⟨fun _ => rfl, rfl, rfl⟩
  obtain ⟨hvalue, -, hscript⟩ := evaluation_sees_visible_only host 3 3 ctx hlike
  exact ⟨hlike, hshares, hvalue body, hscript {} hshares none _ body _⟩

end Evaluator

end TextShell
