import TextShell.Console
import TextShell.Proofs.Builtin.Calls
import TextShell.Proofs.Eval.Errors
import TextShell.Proofs.Program.RoundTrip
import TextShell.Proofs.Registry.Merge

/-!
# Sessions without internal errors

A tree is `Legal` if every slot in it holds a node that the slot admits.  The
trees of accepted sources are legal, and so are the bodies of functions that
sources define; the built-in functions are called with numbers of arguments that
they take.  Each source that a session handles, and each that a script evaluates,
keeps its functions so.  Whatever is executed is therefore legal, with functions
that are, and an execution of that kind never fails with an error inside the
evaluator.

## Main results

* `legal_of_parse` — accepted sources are legal programs.
* `Executed.legal` — whatever is executed is legal, and so are its functions.
* `internal_errors_unreachable` — no source leads to an internal error.
-/

namespace TextShell

/-! ## Legal trees -/

/-- Every slot in the tree holds a node that it admits. -/
inductive Tree.Legal : Slot → Node → Prop
  | intro {slot : Slot} {node : Node} (admits : slot.admits node = true)
      (parts : ∀ part ∈ node.parts, Tree.Legal part.1 part.2) : Tree.Legal slot node

/-- The bodies of the functions and the statements of the program are legal. -/
structure ProgramOf.Legal (p : Program) : Prop where
  functions : ∀ f ∈ p.functions, f.body.isBlock = true ∧ f.body.Legal .value
  executions : ∀ node ∈ p.executions, node.Legal .statement

theorem Tree.Legal.optional {held : Node} (h : held.Legal .value) :
    ∀ part ∈ held.optional, Tree.Legal part.1 part.2 := by
  unfold Tree.optional
  split
  · simp
  · exact List.forall_mem_singleton.2 h

namespace Grammar

/-- The slot that a rule fills. -/
def Rule.slot : Rule → Slot
  | .value => .value
  | .execution => .statement

/-- What a rule can give is legal where the rule stands. -/
theorem legal_of_forms {rule : Rule} {node : Node} (h : Forms rule node) :
    node.Legal rule.slot := by
  have hpair {a b : Node} (ha : a.Legal .value) (hb : b.Legal .value) :
      ∀ part ∈ [(Slot.value, a), (Slot.value, b)], Tree.Legal part.1 part.2 :=
    List.forall_mem_cons.2 ⟨ha, List.forall_mem_singleton.2 hb⟩
  induction h with
  | template ht => exact .intro rfl (by simp [Tree.parts])
  | @block rule executions loc hes ih =>
      exact .intro (by cases rule <;> rfl) (List.forall_mem_map.2 ih)
  | @forEach rule target list body loc htarget hlist hbody ihlist ihbody =>
      refine .intro (by cases rule <;> rfl) (List.forall_mem_append.2 ?_)
      exact ⟨hpair ihlist ihbody, by simp [Tree.optional, Tree.isAbsent]⟩
  | @forSplit rule target list body separator loc htarget hlist hbody hseparator
      ihlist ihbody ihseparator =>
      refine .intro (by cases rule <;> rfl) (List.forall_mem_append.2 ?_)
      exact ⟨hpair ihlist ihbody, Tree.Legal.optional ihseparator⟩
  | @ifThen rule condition body loc hcondition hbody ihcondition ihbody =>
      exact .intro (by cases rule <;> rfl) (hpair ihcondition ihbody)
  | @ifElse rule condition trueBody falseBody loc hcondition htrue hfalse hclosed
      ihcondition ihtrue ihfalse =>
      refine .intro (by cases rule <;> rfl) (List.forall_mem_cons.2 ?_)
      exact ⟨ihcondition, hpair ihtrue ihfalse⟩
  | @whileLoop rule condition body loc hcondition hbody ihcondition ihbody =>
      exact .intro (by cases rule <;> rfl) (hpair ihcondition ihbody)
  | assign htarget hheld ih => exact .intro rfl (List.forall_mem_singleton.2 ih)
  | returnNothing => exact .intro rfl (by simp [Tree.parts, Tree.optional, Tree.isAbsent])
  | returnWith hheld ih => exact .intro rfl (Tree.Legal.optional ih)
  | clearNothing => exact .intro rfl (by simp [Tree.parts, Tree.optional, Tree.isAbsent])
  | clearWith hheld ih => exact .intro rfl (Tree.Legal.optional ih)
  | call hname harguments ih => exact .intro rfl (List.forall_mem_map.2 ih)

theorem FormsProgram.legal {p : Program} (h : FormsProgram p) : p.Legal where
  functions f hf := by
    obtain ⟨executions, loc, hbody, hes⟩ := (h.functions f hf).body
    have hforms : Forms .value f.body := hbody ▸ .block hes
    exact ⟨by rw [hbody]; rfl, legal_of_forms hforms⟩
  executions node hnode := legal_of_forms (h.executions node hnode)

end Grammar

open Grammar in
/-- What the grammar accepts becomes a program, which is legal. -/
theorem legal_of_items {source : String} {items : List Element}
    (h : items? source = some items) :
    ∃ p, ProgramOf.ofElements Document.name items = .ok p ∧
      Program.parse source = .ok p ∧ p.Legal := by
  obtain ⟨p, hp, hforms⟩ := items?_formsProgram h
  exact ⟨p, hp, Program.parse_eq_ok.2 ⟨items, h, hp⟩, hforms.legal⟩

/-- Accepted sources are legal programs. -/
theorem legal_of_parse {source : String} {p : Program}
    (h : Program.parse source = .ok p) : p.Legal :=
  (Program.forms_of_parse h).legal

/-- The only thing wrong with a source can be that the grammar refuses it. -/
theorem parse_error {source : String} {e : SourceError}
    (h : Program.parse source = .error e) : e = .unparsable := by
  cases hitems : Grammar.items? source with
  | none =>
      unfold Program.parse at h
      rw [hitems] at h
      exact (Except.error.inj h).symm
  | some items =>
      obtain ⟨p, -, hp, -⟩ := legal_of_items hitems
      rw [hp] at h
      cases h

/-! ## Legal functions -/

/-- The body is legal, or a built-in function that takes every number of
arguments with which the overload can be called. -/
def Overload.Legal (o : Overload Builtin) : Prop :=
  match o.body with
  | .script tree => tree.Legal .value
  | .host b => ∀ count : Nat, o.accepts count = true → b.takes count = true

namespace Registry

/-- All overloads of the registry are legal. -/
def Legal (r : Registry Builtin) : Prop :=
  ∀ entry ∈ r.functions, ∀ o ∈ entry.2, Overload.Legal o

theorem Legal.register {r next : Registry Builtin} (h : r.Legal) {name message : String}
    {new : Overload Builtin} (hnew : new.Legal)
    (hnext : r.register name new = .ok (next, message)) : next.Legal :=
  forall_register (P := fun _ o => o.Legal) h hnew hnext

theorem Legal.registerAll {r : Registry Builtin} (h : r.Legal)
    {entries : List (String × Overload Builtin)}
    (hentries : ∀ entry ∈ entries, Overload.Legal entry.2) :
    (r.registerAll entries).1.Legal :=
  registerAll_induction
    (fun entry hentry _ _ _ hr hnext => hr.register (hentries entry hentry) hnext) h

theorem Legal.merge {r other : Registry Builtin} (h : r.Legal) (hother : other.Legal) :
    (r.merge other).1.Legal := by
  rw [merge_fst]
  refine h.registerAll fun entry hentry => ?_
  obtain ⟨function, hfunction, hmem⟩ := List.mem_flatMap.1 hentry
  obtain ⟨o, ho, rfl⟩ := List.mem_map.1 hmem
  exact hother function hfunction o ho

theorem Legal.addScripts {r next : Registry Builtin} (h : r.Legal) {p : Program}
    (hp : p.Legal) {messages : List String}
    (hnext : r.addScripts p.functions = .ok (next, messages)) : next.Legal := by
  refine addScripts_induction (fun f hf r next message hr hstep => ?_) h hnext
  have hbody : Overload.Legal (ofFunction f) := (hp.functions f hf).2
  exact hr.register hbody hstep

theorem legal_empty : ({} : Registry Builtin).Legal := by
  intro entry hentry
  cases hentry

theorem legal_library : (Builtin.library id : Registry Builtin).Legal := by
  refine legal_empty.registerAll fun entry hentry => ?_
  obtain ⟨⟨name, b, overloads⟩, hrow, hmem⟩ := List.mem_flatMap.1 hentry
  obtain ⟨params, hparams, rfl⟩ := List.mem_map.1 hmem
  have hrowFits := List.all_eq_true.1 Builtin.table_fits _ hrow
  have hfits := List.all_eq_true.1 hrowFits params hparams
  exact fun count haccepts => Builtin.takes_of_fits hfits haccepts

end Registry

/-! ## What is executed -/

/-- The error is not one inside the evaluator. -/
def ScriptError.Reported (e : ScriptError) : Prop := ∀ detail, e ≠ .internal detail

open Evaluator in
theorem legality_legal : Legality ScriptError.Reported Tree.Legal where
  part h _ _ hinner := by
    cases h with
    | intro _ hparts => exact hparts _ hinner
  effect {node} h heffect := by
    cases h with
    | intro hadmits hparts =>
        refine .intro ?_ hparts
        cases node with
        | block _ _ | forEach _ _ _ _ _ | ifThen _ _ _ | ifElse _ _ _ _ | whileLoop _ _ _ =>
            rfl
        | bareControl loc => cases hadmits
        | _ => cases heffect
  confused _ _ _ _ h hadmits := by
    cases h with
    | intro hadmitted _ =>
        rw [hadmitted] at hadmits
        cases hadmits
  reported h := h

/-- Calls resolve to legal bodies, and to built-in functions that answer. -/
theorem Registry.Legal.lawful {r : Registry Builtin} (h : r.Legal) :
    r.Lawful ScriptError.Reported Tree.Legal Builtin.host := by
  intro name count o hresolve
  obtain ⟨⟨entry, hentry, ho⟩, haccepts⟩ := mem_of_resolve hresolve
  have hlegal : o.Legal := h entry hentry o ho
  unfold Overload.Legal at hlegal
  cases hbody : o.body with
  | script tree =>
      rw [hbody] at hlegal
      exact fun _ => hlegal
  | host b =>
      rw [hbody] at hlegal
      rintro arguments world rfl
      have hproper := Builtin.call_proper (hlegal _ haccepts) r world
      change (b.call r arguments world).1.Proper at hproper
      constructor
      · intro e he
        change (b.call r arguments world).1 = _ at he
        rw [he] at hproper
        exact hproper.elim
      · intro kind hkind
        change (b.call r arguments world).1 = _ at hkind
        rw [hkind] at hproper
        exact hproper.elim

/-- An execution of legal statements with legal functions does not fail with an
error inside the evaluator. -/
theorem execute_reported {fuel : Nat} {ctx : Context Builtin} {executions : List Node}
    {s t : State} {failure : Failure} (hregistry : ctx.registry.Legal)
    (hexecutions : ∀ node ∈ executions, node.Legal .statement)
    (h : Evaluator.execute Builtin.host fuel ctx executions s = .done (.error failure) t) :
    failure.error.Reported := by
  have habort := Evaluator.execute_error h
  cases fuel with
  | zero => cases habort
  | succ fuel =>
      exact Evaluator.errors_of_legality legality_legal hregistry.lawful
        (a := .statements Value.truthy executions) hexecutions habort

namespace Session

variable {H : Type}

/-- The session behind sources that were handled one after the other. -/
def after (host : Host H) (s : Session H) (sources : List String) : Session H :=
  sources.foldl (fun s source => (s.handle host source).2) s

/-- What is made of the outcome of an execution. -/
def verdict : Outcome (Except Failure Value) → Except Diagnosis Value
  | .done (.ok v) _ => .ok v
  | .done (.error failure) _ => .error ⟨failure.error.describe, failure.loc⟩
  | .raised fault _ => .error ⟨"InternalError: " ++ fault.kind ++ ": " ++ fault.message, none⟩
  | .outOfFuel =>
    .error ⟨"InternalError: " ++ Fault.outOfFuel.kind ++ ": " ++ Fault.outOfFuel.message, none⟩

section Handling

variable (host : Host H) (s : Session H) {source : String} {p : Program}

theorem handle_of_error {e : SourceError} (hparse : Program.parse source = .error e) :
    (s.handle host source).2.registry = s.registry := by
  unfold handle
  simp only [hparse]
  rfl

theorem handle_of_rejected (hparse : Program.parse source = .ok p)
    {rejected : OverloadRejected}
    (hadd : s.registry.addScripts p.functions = .error rejected) :
    (s.handle host source).2.registry = s.registry ∧
      (s.handle host source).1.result = .error ⟨rejected.describe, none⟩ := by
  unfold handle addFunctions
  simp only [hparse, hadd]
  exact ⟨rfl, rfl⟩

/-- A source that is accepted adds its functions, and is executed with them. -/
theorem handle_of_accepted (hparse : Program.parse source = .ok p)
    {registry : Registry H} {messages : List String}
    (hadd : s.registry.addScripts p.functions = .ok (registry, messages)) :
    (s.handle host source).2.registry = registry ∧
      ∃ start, (s.handle host source).1.result =
        verdict (Evaluator.execute host standardFuel ⟨registry, s.maxCallDepth⟩
          p.executions start) := by
  obtain ⟨ready, hready, rfl, hdepth⟩ : ∃ ready : Session H,
      addFunctions { s with world := s.world.clearEffects } p.functions =
        .ok (ready, messages) ∧
      ready.registry = registry ∧ ready.maxCallDepth = s.maxCallDepth := by
    unfold addFunctions
    rw [hadd]
    exact ⟨_, rfl, rfl, rfl⟩
  rw [← hdepth]
  unfold handle
  simp only [hparse, hready, execute, perform]
  let start : State := { stack := { globals := ready.globals }, world := ready.world }
  suffices h : _ ∧ _ = verdict (Evaluator.execute host standardFuel ready.context
      p.executions start) from ⟨h.1, start, h.2⟩
  generalize Evaluator.execute host standardFuel ready.context p.executions start = outcome
  cases outcome with
  | done answer t => cases answer <;> exact ⟨rfl, rfl⟩
  | raised fault t => exact ⟨rfl, rfl⟩
  | outOfFuel => exact ⟨rfl, rfl⟩

end Handling

/-- What definitions that are registered together keep is kept by sources that are
handled one after the other. -/
theorem after_induction {host : Host H} {P : Registry H → Prop} {sources : List String}
    (step : ∀ source ∈ sources, ∀ p r next messages, Program.parse source = .ok p → P r →
      r.addScripts p.functions = .ok (next, messages) → P next)
    {s : Session H} (h : P s.registry) : P (s.after host sources).registry := by
  induction sources generalizing s with
  | nil => exact h
  | cons source rest ih =>
      obtain ⟨hsource, hrest⟩ := List.forall_mem_cons.1 step
      refine ih hrest ?_
      cases hparse : Program.parse source with
      | error e =>
          rw [handle_of_error _ s hparse]
          exact h
      | ok p =>
          cases hadd : s.registry.addScripts p.functions with
          | error rejected =>
              rw [(handle_of_rejected _ s hparse hadd).1]
              exact h
          | ok answer =>
              rw [(handle_of_accepted _ s hparse hadd).1]
              exact hsource p s.registry _ _ hparse h hadd

/-- Sources keep the functions of a session legal. -/
theorem legal_after {s : Session Builtin} (h : s.registry.Legal) (sources : List String) :
    (s.after Builtin.host sources).registry.Legal :=
  after_induction (fun _ _ _ _ _ _ hparse hr hadd => hr.addScripts (legal_of_parse hparse) hadd) h

theorem legal_start (world : World) : (Console.start world).registry.Legal := by
  have hmerged := Registry.legal_empty.merge Registry.legal_library
  unfold Console.start addLibrary
  split
  · next hmerge =>
    rw [hmerge] at hmerged
    exact hmerged
  · next hmerge =>
    rw [hmerge] at hmerged
    exact hmerged

end Session

/-- The executions that there are: of a source that a session handles behind
others, and of one that is evaluated in the course of an execution. -/
inductive Executed : Context Builtin → List Node → Prop
  | handled {world : World} {sources : List String} {source : String} {p : Program}
      {registry : Registry Builtin} {messages : List String}
      (hparse : Program.parse source = .ok p)
      (hadd : ((Console.start world).after Builtin.host sources).registry.addScripts
        p.functions = .ok (registry, messages)) :
      Executed
        ⟨registry, ((Console.start world).after Builtin.host sources).maxCallDepth⟩
        p.executions
  | evaluated {ctx : Context Builtin} {executions : List Node} {source : String}
      {p : Program} {copied registry : Registry Builtin} {message : String}
      {messages : List String} (h : Executed ctx executions)
      (hcopy : ({} : Registry Builtin).merge ctx.registry = (copied, .ok message))
      (hparse : Program.parse source = .ok p)
      (hadd : copied.addScripts p.functions = .ok (registry, messages)) :
      Executed ⟨registry, standardCallDepth⟩ p.executions

/-- Whatever is executed is legal, and so are its functions. -/
theorem Executed.legal {ctx : Context Builtin} {executions : List Node}
    (h : Executed ctx executions) :
    ctx.registry.Legal ∧ ∀ node ∈ executions, node.Legal .statement := by
  induction h with
  | @handled world sources source p registry messages hparse hadd =>
      have hp := legal_of_parse hparse
      have hafter := Session.legal_after (Session.legal_start world) sources
      exact ⟨hafter.addScripts hp hadd, hp.executions⟩
  | @evaluated ctx executions source p copied registry message messages h hcopy hparse
      hadd ih =>
      have hp := legal_of_parse hparse
      have hcopied := Registry.legal_empty.merge ih.1
      rw [hcopy] at hcopied
      exact ⟨hcopied.addScripts hp hadd, hp.executions⟩

theorem Executed.reported {ctx : Context Builtin} {executions : List Node}
    (h : Executed ctx executions) {fuel : Nat} {s t : State} {failure : Failure}
    (hrun : Evaluator.execute Builtin.host fuel ctx executions s = .done (.error failure) t) :
    failure.error.Reported :=
  execute_reported h.legal.1 h.legal.2 hrun

/-- The errors that a source can end in, which a session handles. -/
inductive Diagnosed (source : String) : Diagnosis → Prop
  | refused (h : Program.parse source = .error .unparsable) (d : Diagnosis) :
      Diagnosed source d
  | rejected (r : OverloadRejected) : Diagnosed source ⟨r.describe, none⟩
  | failed {failure : Failure} (h : failure.error.Reported) :
      Diagnosed source ⟨failure.error.describe, failure.loc⟩
  | fault (f : Fault) :
      Diagnosed source ⟨"InternalError: " ++ f.kind ++ ": " ++ f.message, none⟩

theorem diagnosed_of_handle {world : World} {sources : List String} {source : String}
    {d : Diagnosis}
    (h : (((Console.start world).after Builtin.host sources).handle Builtin.host
      source).1.result = .error d) : Diagnosed source d := by
  cases hparse : Program.parse source with
  | error e =>
      obtain rfl := parse_error hparse
      exact .refused hparse d
  | ok p =>
      cases hadd : ((Console.start world).after Builtin.host sources).registry.addScripts
          p.functions with
      | error rejected =>
          rw [(Session.handle_of_rejected _ _ hparse hadd).2] at h
          cases h
          exact .rejected rejected
      | ok extended =>
          obtain ⟨-, start, hverdict⟩ := Session.handle_of_accepted Builtin.host _ hparse hadd
          rw [hverdict] at h
          have hexecuted : Executed _ p.executions := .handled hparse hadd
          cases hrun : Evaluator.execute Builtin.host standardFuel _ p.executions start with
          | done answer t =>
              rw [hrun] at h
              cases answer with
              | ok v => cases h
              | error failure =>
                  cases h
                  exact .failed (hexecuted.reported hrun)
          | raised fault t =>
              rw [hrun] at h
              cases h
              exact .fault fault
          | outOfFuel =>
              rw [hrun] at h
              cases h
              exact .fault .outOfFuel

/-- The values of a source that is evaluated in the course of an execution. -/
inductive Evaluated (fuel : Nat) (source : String) : Value → Prop
  | refused (h : Program.parse source = .error .unparsable) :
      Evaluated fuel source (Value.falsy "SyntaxError: parse failed")
  | rejected (r : OverloadRejected) : Evaluated fuel source (Value.falsy r.describe)
  | failed {failure : Failure} (h : failure.error.Reported) :
      Evaluated fuel source (Value.falsy failure.error.describe)
  | value {ctx : Context Builtin} {executions : List Node} {s t : State} {v : Value}
      (h : Executed ctx executions)
      (hrun : Evaluator.execute Builtin.host fuel ctx executions s = .done (.ok v) t) :
      Evaluated fuel source v

open Evaluator (sourceWith evalSource evaluate execute topLevel)

/-- The functions that the source starts out with are those of `copied`. -/
theorem evaluated_of_sourceWith {ctx : Context Builtin} {executions : List Node}
    (h : Executed ctx executions) {copied : Registry Builtin} {message : String}
    (hcopy : ({} : Registry Builtin).merge ctx.registry = (copied, .ok message))
    {fuel : Nat} {source : String} {s t : State} {signal : Signal}
    (hrun : sourceWith (evaluate Builtin.host fuel) copied source s = .done signal t) :
    ∃ v, signal = .append v ∧ Evaluated fuel source v := by
  unfold sourceWith at hrun
  cases hparse : Program.parse source with
  | error e =>
      obtain rfl := parse_error hparse
      rw [hparse] at hrun
      cases hrun
      exact ⟨_, rfl, .refused hparse⟩
  | ok p =>
      rw [hparse] at hrun
      dsimp only at hrun
      cases hadd : copied.addScripts p.functions with
      | error rejected =>
          rw [hadd] at hrun
          cases hrun
          exact ⟨_, rfl, .rejected rejected⟩
      | ok extended =>
          rw [hadd] at hrun
          obtain ⟨-, u, -, hrun⟩ := Run.bind_eq_done.1 hrun
          obtain ⟨answer, u', hinner, hrun⟩ := Run.bind_eq_done.1 hrun
          obtain ⟨w, heval, -⟩ := Run.within_eq_done.1 hinner
          have hexecuted : Executed ⟨extended.1, standardCallDepth⟩ p.executions :=
            .evaluated h hcopy hparse hadd
          have hexecute : execute Builtin.host fuel ⟨extended.1, standardCallDepth⟩
              p.executions _ = .done (topLevel answer) w :=
            Run.bind_eq_done.2 ⟨answer, w, heval, rfl⟩
          cases hlevel : topLevel answer with
          | ok v =>
              rw [hlevel] at hrun hexecute
              cases hrun
              exact ⟨v, rfl, .value hexecuted hexecute⟩
          | error failure =>
              rw [hlevel] at hrun hexecute
              cases hrun
              exact ⟨_, rfl, .failed (hexecuted.reported hexecute)⟩

theorem evaluated_of_evalSource {ctx : Context Builtin} {executions : List Node}
    (h : Executed ctx executions) {fuel : Nat} {source : String} {s t : State}
    {signal : Signal}
    (hrun : evalSource (evaluate Builtin.host fuel) ctx source s = .done signal t) :
    ∃ v, signal = .append v ∧ Evaluated fuel source v := by
  unfold evalSource at hrun
  cases hcopy : ({} : Registry Builtin).merge ctx.registry with
  | mk copied result =>
      rw [hcopy] at hrun
      cases result with
      | error rejected =>
          cases hrun
          exact ⟨_, rfl, .rejected rejected⟩
      | ok message =>
          obtain ⟨-, u, -, hrun⟩ := Run.bind_eq_done.1 hrun
          exact evaluated_of_sourceWith h hcopy hrun

/-- No source leads to an error inside the evaluator.  What the grammar accepts
becomes a legal program, in which every value slot and every list of statements
holds only nodes that are known there; a source is refused by the grammar or not
at all.  No execution of a source that a session handles, after whatever other
sources, or of one that is evaluated within such an execution, fails with an
internal error.  What such sources come to is then a value, a refusal, a
rejected definition, an error of the script, or a fault of a function. -/
theorem internal_errors_unreachable :
    (∀ source items, Grammar.items? source = some items →
      ∃ p, ProgramOf.ofElements Document.name items = .ok p ∧
        Program.parse source = .ok p ∧ p.Legal) ∧
    (∀ source e, Program.parse source = .error e → e = .unparsable) ∧
    (∀ ctx executions, Executed ctx executions → ∀ fuel s t failure,
      execute Builtin.host fuel ctx executions s = .done (.error failure) t →
        ∀ detail, failure.error ≠ .internal detail) ∧
    (∀ world sources source d,
      (((Console.start world).after Builtin.host sources).handle Builtin.host
        source).1.result = .error d → Diagnosed source d) ∧
    ∀ ctx executions, Executed ctx executions → ∀ fuel source s signal t,
      evalSource (evaluate Builtin.host fuel) ctx source s = .done signal t →
        ∃ v, signal = .append v ∧ Evaluated fuel source v :=
  ⟨fun _ _ => legal_of_items, fun _ _ => parse_error,
    fun _ _ h _ _ _ _ hrun => h.reported hrun, fun _ _ _ _ => diagnosed_of_handle,
    fun _ _ h _ _ _ _ _ => evaluated_of_evalSource h⟩

end TextShell
