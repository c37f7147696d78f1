import TextShell.Proofs.Eval.Discipline
import TextShell.Proofs.Scope

/-!
# Evaluation and the stack of scopes

However an evaluation ends, with a signal or with a fault, every frame that it
has pushed is gone and every scope binds the names it bound before.  Only
statements run in the scope they stand in, so only they can add names to it:
those that they assign to directly.  A block drops what its statements have
added together with its frame, and a call gives the caller's frames back.

`Leads R x` says that a run leads from a stack to one that is related to it by
`R`.  Value slots keep `Evolves []`, and statements `Evolves names` for the
names that they assign to.

## Main results

* `discipline_evolves` — evaluation changes stacks in this way only.
* `leads_evalStatements` — which names a list of statements can add.
* `evaluation_binds_no_names` — the same of each entry of the evaluator.
-/

namespace TextShell

/-- The state in which a run has ended, with or without an answer. -/
def Outcome.Leaves {α : Type} (P : State → Prop) : Outcome α → Prop
  | .done _ t => P t
  | .raised _ t => P t
  | .outOfFuel => True

theorem Outcome.Leaves.mono {α : Type} {P Q : State → Prop} {o : Outcome α}
    (h : o.Leaves P) (hPQ : ∀ t, P t → Q t) : o.Leaves Q := by
  cases o with
  | done a t => exact hPQ t h
  | raised fault t => exact hPQ t h
  | outOfFuel => trivial

namespace Run

variable {α β : Type} {R Q T : ScopeStack → ScopeStack → Prop}

/-- The run ends with a stack that is related to the one it began with. -/
def Leads (R : ScopeStack → ScopeStack → Prop) (x : Run α) : Prop :=
  ∀ s, (x s).Leaves fun t => R s.stack t.stack

theorem Leads.mono {x : Run α} (h : Leads R x) (hRQ : ∀ s t, R s t → Q s t) :
    Leads Q x := fun s => (h s).mono fun _ => hRQ _ _

/-- A run that keeps the stack as it is. -/
theorem Leads.of_same {x : Run α} (hR : ∀ s, R s s)
    (h : ∀ s, (x s).Leaves fun t => t.stack = s.stack) : Leads R x := by
  intro s
  refine (h s).mono fun t ht => ?_
  rw [ht]
  exact hR s.stack

theorem Leads.bind {x : Run α} {f : α → Run β} (hx : Leads R x)
    (hf : ∀ a, Leads Q (f a)) (hstop : ∀ s t, R s t → T s t)
    (htrans : ∀ s t u, R s t → Q t u → T s u) : Leads T (x >>= f) := by
  intro s
  have hs := hx s
  change (Run.bind x f s).Leaves _
  rw [Run.bind]
  cases hxs : x s with
  | done a t =>
      rw [hxs] at hs
      exact (hf a t).mono fun u hu => htrans _ _ _ hs hu
  | raised fault t =>
      rw [hxs] at hs
      exact hstop _ _ hs
  | outOfFuel => trivial

/-- A run from another state, behind which the state is put together anew. -/
theorem Leads.within {enter : State → State} {leave : State → State → State}
    {x : Run α} (hx : Leads R x)
    (h : ∀ s t : State, R (enter s).stack t.stack →
      Q s.stack (leave s t).stack) :
    Leads Q (Run.within enter leave x) := by
  intro s
  have hs := hx (enter s)
  rw [Run.within]
  cases hxs : x (enter s) with
  | done a t =>
      rw [hxs] at hs
      exact h s t hs
  | raised fault t =>
      rw [hxs] at hs
      exact h s t hs
  | outOfFuel => trivial

theorem leads_true (x : Run α) : Leads (fun _ _ => True) x := by
  intro s
  cases x s <;> trivial

end Run

namespace Evaluator

open Run (Leads leads_true)
open ScopeStack (Evolves)

/-- Evaluation changes stacks in this way only. -/
theorem discipline_evolves :
    Discipline (fun _ x => Leads (Evolves []) x)
      fun _ x => Leads (fun s t => ∃ names, Evolves names s t) x where
  pure _ := Leads.of_same (Evolves.refl []) fun _ => rfl
  raise _ := Leads.of_same (Evolves.refl []) fun _ => rfl
  stop := fun _ => trivial
  bind hx hf := hx.bind hf (fun _ _ h => h) fun _ _ _ h h' => h.trans h'
  act _ := Leads.of_same (Evolves.refl []) fun _ => rfl
  template _ := Leads.of_same (Evolves.refl []) fun _ => rfl
  apart x := (leads_true x).within fun s _ _ => Evolves.refl [] s.stack
  called hx _ := hx.within fun s _ h => Evolves.giveBack (s := s.stack) h
  inFrame hx := hx.within fun _ _ ⟨_, h⟩ => h.pop
  ofValue hx := hx.mono fun _ _ h => ⟨[], h⟩
  seq hx hf := hx.bind hf (fun _ _ h => h) fun _ _ _ ⟨_, h⟩ ⟨_, h'⟩ =>
    ⟨_, h.trans h'⟩
  declare name v := fun s => ⟨[name], s.stack.evolves_declare name v⟩
  set name v := fun s => ⟨[name], s.stack.evolves_set name v⟩

/-- The names that statements of the list assign to. -/
def targets (executions : List Node) : List String :=
  executions.filterMap fun
    | .assign target _ _ => some target
    | _ => none

theorem targets_cons (node : Node) (rest : List Node) :
    targets (node :: rest) = targets [node] ++ targets rest := by
  cases node <;> rfl

section Statements

variable {H : Type} {host : Host H} {eval : Context H → Task → Run Signal}
  {ctx : Context H}
  (heval : ∀ ctx node, Leads (Evolves []) (eval ctx (.value node)))

include heval

/-- A statement adds its target, if it is an assignment. -/
theorem leads_evalStatement (node : Node) :
    Leads (Evolves (targets [node])) (evalStatement host eval ctx node) := by
  by_cases h : ∃ target held loc, node = .assign target held loc
  · obtain ⟨target, held, loc, rfl⟩ := h
    refine (heval ctx held).bind (fun signal => ?_)
      (fun _ _ h => h.weaken [target]) fun _ _ _ h h' => h.trans h'
    cases signal with
    | append v => exact fun s => s.stack.evolves_set target v
    | proceed => exact fun s => Evolves.refl _ s.stack
    | returned v => exact fun s => Evolves.refl _ s.stack
    | cleared v => exact fun s => Evolves.refl _ s.stack
    | abort failure => exact fun s => Evolves.refl _ s.stack
  · refine Leads.mono (discipline_evolves.evalStatement_of_value heval ?_)
      fun _ _ h => h.weaken _
    exact fun target held loc hnode => h ⟨target, held, loc, hnode⟩

/-- A list of statements adds only the targets that stand directly in it. -/
theorem leads_evalStatements (output : Value) (executions : List Node) :
    Leads (Evolves (targets executions))
      (evalStatements host eval ctx output executions) := by
  induction executions generalizing output with
  | nil => exact fun s => Evolves.refl [] s.stack
  | cons node rest ih =>
      rw [targets_cons]
      refine (leads_evalStatement heval node).bind (fun signal => ?_)
        (fun _ t h => h.trans (.refl (targets rest) t))
        fun _ _ _ h h' => h.trans h'
      cases signal with
      | proceed => exact ih output
      | append v => exact ih (output.append v)
      | cleared v => exact ih v
      | returned v => exact fun s => Evolves.refl _ s.stack
      | abort failure => exact fun s => Evolves.refl _ s.stack

end Statements

/-- No binding leaks and no frame is lost.  Behind a value, a block, a control
statement or a call there are as many frames as before, and each scope binds
the names that it bound; a list of statements adds at most the targets that
stand directly in it, to the innermost scope. -/
theorem evaluation_binds_no_names {H : Type} (host : Host H)
    (fuel rounds : Nat) (ctx : Context H) (s : State) :
    (∀ node, (evalValue host (evaluate host fuel) ctx rounds node s).Leaves
      fun t => s.stack.SameNames t.stack) ∧
    (∀ executions,
      (evalBlock host (evaluate host fuel) ctx executions s).Leaves
        fun t => s.stack.SameNames t.stack) ∧
    (∀ node, (evalControl (evaluate host fuel) ctx rounds node s).Leaves
      fun t => s.stack.SameNames t.stack) ∧
    (∀ name nodes loc,
      (evalCall host (evaluate host fuel) ctx name nodes loc s).Leaves
        fun t => s.stack.SameNames t.stack) ∧
    ∀ output executions,
      (evalStatements host (evaluate host fuel) ctx output executions s).Leaves
        fun t => s.stack.AddsNames (targets executions) t.stack := by
  have D := discipline_evolves
  have heval := D.evaluate host fuel
  have hsame : ∀ t : State, s.stack.Evolves [] t.stack →
      s.stack.SameNames t.stack := fun t h => h.addsNames.sameNames
  refine ⟨fun node => ?_, fun executions => ?_, fun node => ?_,
    fun name nodes loc => ?_, fun output executions => ?_⟩
  · exact (D.evalValue heval rounds node s).mono hsame
  · exact (D.evalBlock heval executions s).mono hsame
  · exact (D.evalControl heval rounds node s).mono hsame
  · exact (D.evalCall heval name nodes loc s).mono hsame
  · exact (leads_evalStatements heval output executions s).mono
      fun t h => h.addsNames

end Evaluator

end TextShell
