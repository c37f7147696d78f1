import TextShell.Proofs.Eval.Signals

/-!
# Where the errors of evaluation come from

Whatever holds of the errors that arise in single steps holds of the error of
every abort (`errors_of_steps`).

A node stands in the slot of a value or in that of a statement, and each slot
admits some kinds of nodes only; a node that a slot does not admit is an error
inside the evaluator.  `Legality` says what a predicate on slots and nodes has to
do with the errors of a class `E`: it passes to the parts of a node, and where
it lets a node into a slot that does not admit it, the error is in `E`.  If the
functions of the registry are held to the same, every abort has an error of `E`
(`errors_of_legality`).

With the predicate that holds of everything this is about all trees.  None of
them makes the evaluator miss the result of a value slot.

## Main results

* `errors_of_steps` — the errors of aborts come from single steps.
* `errors_of_legality` — what can be the error of an abort.
* `signal_discipline` — the signals of each entry of the evaluator.
-/

namespace TextShell

/-- The error of an abort, if the signal is one, is among those of `E`. -/
def Signal.Errors (E : ScriptError → Prop) : Signal → Prop
  | .abort failure => E failure.error
  | _ => True

/-- Where a node can stand. -/
inductive Slot where
  | value
  | statement
deriving Repr, DecidableEq

/-- The kinds of nodes that are known in a slot. -/
def Slot.admits : Slot → Node → Bool
  | _, .block .. | _, .forEach .. | _, .ifThen .. | _, .ifElse .. | _, .whileLoop .. => true
  | .value, .template _ => true
  | .statement, .assign .. | .statement, .returnWith .. | .statement, .clearWith .. => true
  | .statement, .call .. => true
  | _, _ => false

/-- A part that may be left out. -/
def Tree.optional (node : Node) : List (Slot × Node) :=
  if node.isAbsent then [] else [(.value, node)]

/-- The parts of a node, each with the slot that it stands in. -/
def Tree.parts : Node → List (Slot × Node)
  | .block executions _ => executions.map (.statement, ·)
  | .forEach _ list body separator _ =>
    [(.value, list), (.value, body)] ++ separator.optional
  | .ifThen condition body _ => [(.value, condition), (.value, body)]
  | .ifElse condition trueBody falseBody _ =>
    [(.value, condition), (.value, trueBody), (.value, falseBody)]
  | .whileLoop condition body _ => [(.value, condition), (.value, body)]
  | .assign _ held _ => [(.value, held)]
  | .returnWith held _ => held.optional
  | .clearWith held _ => held.optional
  | .call _ arguments _ => arguments.map (.value, ·)
  | _ => []

theorem Tree.mem_optional {node : Node} (h : node.isAbsent = false) :
    (Slot.value, node) ∈ node.optional := by
  simp [optional, h]

variable {H : Type}

/-- The body is legal, or it is that of a host function which answers a call
under this name, with so many arguments, with errors of `E` only. -/
def Body.Answers (E : ScriptError → Prop) (legal : Slot → Node → Prop) (host : Host H)
    (registry : Registry H) (name : String) (count : Int) : Body H → Prop
  | .script tree => tree.isBlock = true → legal .value tree
  | .host entry => ∀ (arguments : List Value) world, (arguments.length : Int) = count →
    (∀ e, (host.call entry registry arguments world).1 = .error e → E e) ∧
    ∀ kind, (host.call entry registry arguments world).1 = .foreign kind →
      E (.internal ("host function `" ++ name ++ "` returned " ++ kind))

/-- Whatever a call resolves to answers in this way. -/
def Registry.Lawful (E : ScriptError → Prop) (legal : Slot → Node → Prop)
    (host : Host H) (registry : Registry H) : Prop :=
  ∀ name count overload, registry.resolve name count = .ok overload →
    overload.body.Answers E legal host registry name count

namespace Evaluator

open Signal (OfValue OfCall OfStatement)

/-! ## The errors of single steps -/

/-- Where a step aborts by itself, the error is among those of `E`; and what it
begins is sound, if parts abort with such errors only. -/
def Step.Sound (E : ScriptError → Prop) (sound : Activity H → Prop) (s : State) :
    Step H → Prop
  | .ends x => ∀ signal t, x s = .done signal t → signal.Errors E
  | .opens a => sound a
  | .goes _ a => sound a
  | .part _ a resume =>
    sound a ∧ ∀ first, a.Signals first → first.Errors E → sound (resume first)

/-- The errors of aborts come from single steps. -/
theorem errors_of_steps {host : Host H} {ctx : Context H} {E : ScriptError → Prop}
    {sound : Activity H → Prop}
    (h : ∀ fuel a s, sound a → (next host fuel ctx a s).Sound E sound s)
    {fuel : Nat} {a : Activity H} (ha : sound a) {s t : State} {signal : Signal}
    (hrun : a.run host fuel ctx s = .done signal t) : signal.Errors E := by
  suffices hmeets : ∀ fuel a s, sound a → (next host fuel ctx a s).Meets sound
      (fun a signal => a.Signals signal ∧ signal.Errors E)
      (fun signal => a.Signals signal ∧ signal.Errors E) s from
    (signals_of_meets hmeets ha hrun).2
  intro fuel a s ha
  have hsignals := next_meets_signals host ctx fuel a s
  have hsound := h fuel a s ha
  generalize next host fuel ctx a s = step at hsignals hsound
  cases step with
  | ends x =>
      exact fun signal t hx => ⟨hsignals signal t hx, hsound signal t hx⟩
  | opens b => exact ⟨hsound, fun signal hb => ⟨hsignals.2 signal hb.1, hb.2⟩⟩
  | goes change b => exact ⟨hsound, fun signal hb => ⟨hsignals.2 signal hb.1, hb.2⟩⟩
  | part w b resume =>
      refine ⟨hsound.1, fun first hfirst => ?_⟩
      refine ⟨hsound.2 first hfirst.1 hfirst.2, fun signal hrest => ?_⟩
      exact ⟨(hsignals.2 first hfirst.1).2 signal hrest.1, hrest.2⟩

section Sound

variable {E : ScriptError → Prop} {sound : Activity H → Prop}

theorem sound_pure {signal : Signal} (h : signal.Errors E) (s : State) :
    (Step.ends (pure signal) : Step H).Sound E sound s := by
  intro answer t hrun
  cases hrun
  exact h

theorem sound_abort {failure : Failure} (h : E failure.error) (s : State) :
    (Step.ends (pure (.abort failure)) : Step H).Sound E sound s := by
  intro answer t hrun
  cases hrun
  exact h

/-- A part in a value slot: what is not its value leaves as it is. -/
theorem sound_onValue {w : Surrounding} {a : Activity H} {resume : Value → Activity H}
    {s : State} (ha : sound a) (hvalue : ∀ first, a.Signals first → first.OfValue)
    (hfinished : ∀ signal : Signal, signal.Errors E → sound (.finished signal))
    (hresume : ∀ v, sound (resume v)) :
    (Step.part w a (Activity.onValue resume)).Sound E sound s := by
  refine ⟨ha, fun first hfirst herrors => ?_⟩
  cases hvalue first hfirst with
  | append v => exact hresume v
  | returned v => exact hfinished _ herrors
  | abort failure => exact hfinished _ herrors

end Sound

/-! ## Legal slots -/

/-- What is said about a node that is not known in its slot. -/
def confusions : List String :=
  ["unknown value node", "unknown control statement", "unknown statement"]

/-- The predicate lets nodes into slots; it passes to their parts, and where
the slot does not admit the node, the error is one of `E`. -/
structure Legality (E : ScriptError → Prop) (legal : Slot → Node → Prop) : Prop where
  part {slot : Slot} {node : Node} (h : legal slot node) {place : Slot} {inner : Node}
    (hinner : (place, inner) ∈ node.parts) : legal place inner
  /-- A statement that is run for its effect stands in a value slot too. -/
  effect {node : Node} (h : legal .statement node)
    (heffect : (node.isBlock || node.isControl) = true) : legal .value node
  confused (what : String) (hwhat : what ∈ confusions) {slot : Slot} {node : Node}
    (h : legal slot node) (hadmits : slot.admits node = false) :
    E (.internal (what ++ " " ++ node.kind))
  /-- The errors that are not inside the evaluator. -/
  reported {e : ScriptError} (h : ∀ detail, e ≠ .internal detail) : E e

/-- The nodes of an activity are legal in the slots that they stand in. -/
def Activity.Legal (E : ScriptError → Prop) (legal : Slot → Node → Prop)
    (ctx : Context H) : Activity H → Prop
  | .finished signal => signal.Errors E
  | .value node => legal .value node
  | .template _ => True
  | .block executions => ∀ node ∈ executions, legal .statement node
  | .control _ node => legal .value node ∧ node.isControl = true
  | .statement node => legal .statement node
  | .statements _ executions => ∀ node ∈ executions, legal .statement node
  | .store _ _ => True
  | .call _ _ _ nodes => ∀ node ∈ nodes, legal .value node
  | .host name _ entry arguments => ∃ overload,
      ctx.registry.resolve name arguments.length = .ok overload ∧
        overload.body = .host entry
  | .script _ _ body _ => legal .value body
  | .loop _ list body separator => legal .value list ∧ legal .value body ∧
      (separator.isAbsent = false → legal .value separator)
  | .separated _ body separator _ => legal .value body ∧ legal .value separator
  | .pieces _ body _ _ => legal .value body
  | .piece _ _ body => legal .value body
  | .rounds condition body _ _ => legal .value condition ∧ legal .value body
  | .round condition body _ _ => legal .value condition ∧ legal .value body

namespace Legality

variable {E : ScriptError → Prop} {legal : Slot → Node → Prop}
  (L : Legality E legal) {host : Host H} {ctx : Context H}

include L

theorem legal_optional {slot : Slot} {node held : Node} (h : legal slot node)
    (hparts : node.parts = held.optional) (hheld : held.isAbsent = false) :
    legal .value held := by
  refine L.part h ?_
  rw [hparts]
  exact Tree.mem_optional hheld

theorem legal_inside (count : Nat) {node : Node} (h : legal .value node) :
    (Activity.inside count node).Legal E legal ctx := by
  cases node with
  | template t => trivial
  | block executions loc =>
      exact fun node hnode => L.part h (List.mem_map_of_mem hnode)
  | forEach target list body separator loc => exact ⟨h, rfl⟩
  | ifThen condition body loc => exact ⟨h, rfl⟩
  | ifElse condition trueBody falseBody loc => exact ⟨h, rfl⟩
  | whileLoop condition body loc => exact ⟨h, rfl⟩
  | bareControl loc => exact ⟨h, rfl⟩
  | _ => exact L.confused "unknown value node" (by simp [confusions]) h rfl

theorem sound_nextControl (count : Nat) {node : Node} (h : legal .value node)
    (hcontrol : node.isControl = true) (s : State) :
    (nextControl count node).Sound E (Activity.Legal E legal ctx) s := by
  cases node with
  | forEach target list body separator loc =>
      have hlist : legal .value list := L.part h (by simp [Tree.parts])
      have hbody : legal .value body := L.part h (by simp [Tree.parts])
      have hseparator (hpresent : separator.isAbsent = false) :
          legal .value separator := by
        refine L.part h (List.mem_append_right _ ?_)
        exact Tree.mem_optional hpresent
      exact ⟨⟨hlist, hbody, hseparator⟩, fun _ _ herrors => herrors⟩
  | ifThen condition body loc =>
      have hcondition : legal .value condition := L.part h (by simp [Tree.parts])
      have hbody : legal .value body := L.part h (by simp [Tree.parts])
      refine sound_onValue hcondition (fun _ h => h) (fun _ h => h) fun v => ?_
      split
      · exact hbody
      · trivial
  | ifElse condition trueBody falseBody loc =>
      have hcondition : legal .value condition := L.part h (by simp [Tree.parts])
      have htrue : legal .value trueBody := L.part h (by simp [Tree.parts])
      have hfalse : legal .value falseBody := L.part h (by simp [Tree.parts])
      refine sound_onValue hcondition (fun _ h => h) (fun _ h => h) fun v => ?_
      change legal .value (if v.isTruthy then trueBody else falseBody)
      split
      · exact htrue
      · exact hfalse
  | whileLoop condition body loc =>
      have hcondition : legal .value condition := L.part h (by simp [Tree.parts])
      have hbody : legal .value body := L.part h (by simp [Tree.parts])
      exact ⟨hcondition, hbody⟩
  | bareControl loc =>
      have herror := L.confused "unknown control statement" (by simp [confusions]) h rfl
      exact sound_abort herror s
  | _ => cases hcontrol

theorem sound_nextOptional {wrap : Value → Signal} {slot : Slot} {node held : Node}
    (hwrap : ∀ v, (wrap v).Errors E) (h : legal slot node)
    (hparts : node.parts = held.optional) (s : State) :
    (nextOptional wrap held).Sound E (Activity.Legal E legal ctx) s := by
  unfold nextOptional
  split
  · exact sound_pure (hwrap _) s
  · next hpresent =>
    have hheld : legal .value held := L.legal_optional h hparts (by simpa using hpresent)
    exact sound_onValue hheld (fun _ h => h) (fun _ h => h) hwrap

theorem sound_nextOpen {node : Node} (h : legal .statement node)
    (hopen : (node.isBlock || node.isControl) = false) (s : State) :
    (nextOpen node).Sound E (Activity.Legal E legal ctx) s := by
  cases node with
  | assign target held loc =>
      have hheld : legal .value held := L.part h (by simp [Tree.parts])
      exact sound_onValue hheld (fun _ h => h) (fun _ h => h) fun _ => trivial
  | returnWith held loc =>
      refine L.sound_nextOptional ?_ h rfl s
      exact fun _ => trivial
  | clearWith held loc =>
      refine L.sound_nextOptional ?_ h rfl s
      exact fun _ => trivial
  | call name nodes loc =>
      exact fun node hnode => L.part h (List.mem_map_of_mem hnode)
  | block executions loc => cases hopen
  | forEach target list body separator loc => cases hopen
  | ifThen condition body loc => cases hopen
  | ifElse condition trueBody falseBody loc => cases hopen
  | whileLoop condition body loc => cases hopen
  | _ =>
      have herror := L.confused "unknown statement" (by simp [confusions]) h rfl
      exact sound_abort herror s

theorem resolve_error {registry : Registry H} {name : String} {count : Int}
    {e : ScriptError} (h : registry.resolve name count = .error e) : E e := by
  refine L.reported fun detail he => ?_
  subst he
  unfold Registry.resolve at h
  split at h
  · cases h
  · cases h
  · split at h <;> cases h

theorem sound_nextInvoke (hctx : ctx.registry.Lawful E legal host) (name : String)
    (loc : Option Loc) (arguments : List Value) (s : State) :
    (nextInvoke ctx name loc arguments).Sound E (Activity.Legal E legal ctx) s := by
  unfold nextInvoke
  split
  · next e he => exact sound_abort (L.resolve_error he) s
  · next overload hresolve =>
    dsimp only
    split
    · next entry hbody => exact ⟨overload, hresolve, hbody⟩
    · next tree hbody =>
      have hanswers := hctx name arguments.length overload hresolve
      rw [hbody] at hanswers
      split
      · next hblock => exact hanswers hblock
      · intro signal t hrun
        cases hrun

theorem sound_nextScript (loc : Option Loc) (params : List Param) {body : Node}
    (hbody : legal .value body) (arguments : List Value) (s : State) :
    (nextScript ctx loc params body arguments s).Sound E (Activity.Legal E legal ctx) s := by
  unfold nextScript
  split
  · refine sound_abort (L.reported fun detail h => ?_) s
    cases h
  · split
    · intro signal t hrun
      cases hrun
    · refine ⟨hbody, fun first hfirst herrors => ?_⟩
      cases hfirst with
      | append v => trivial
      | returned v => trivial
      | abort failure => exact herrors

omit L in
theorem sound_callHost (hctx : ctx.registry.Lawful E legal host) {fuel : Nat} {name : String}
    {loc : Option Loc} {entry : H} {arguments : List Value}
    (h : (Activity.host name loc entry arguments).Legal E legal ctx) (s : State) :
    (next host fuel ctx (.host name loc entry arguments) s).Sound E
      (Activity.Legal E legal ctx) s := by
  obtain ⟨overload, hresolve, hbody⟩ := h
  have hanswers := hctx name arguments.length overload hresolve
  rw [hbody] at hanswers
  have herror (world : World) := (hanswers arguments world rfl).1
  have hforeign (world : World) := (hanswers arguments world rfl).2
  exact signals_callHost (fun _ => trivial) herror hforeign s

/-- Every step of a legal activity is sound. -/
theorem next_sound (hctx : ctx.registry.Lawful E legal host) (fuel : Nat)
    (a : Activity H) (s : State) (ha : a.Legal E legal ctx) :
    (next host fuel ctx a s).Sound E (Activity.Legal E legal ctx) s := by
  cases a with
  | finished signal => exact sound_pure ha s
  | value node => exact L.legal_inside _ ha
  | template t =>
      intro signal u hrun
      cases hrun
      rcases expandPieces_cases s.stack Value.truthy t.pieces with ⟨v, h⟩ | ⟨name, h⟩
      · rw [h]
        trivial
      · rw [h]
        refine L.reported fun detail he => ?_
        cases he
  | block executions => exact ⟨ha, fun _ _ herrors => herrors⟩
  | control count node => exact L.sound_nextControl count ha.1 ha.2 s
  | statement node =>
      rw [next]
      split
      · next heffect =>
        -- Its value is dropped, and a return or an abort is left as it is.
        refine ⟨L.effect ha heffect, fun first hfirst herrors => ?_⟩
        cases hfirst with
        | append v => trivial
        | returned v => trivial
        | abort failure => exact herrors
      · next hopen => exact L.sound_nextOpen ha (by simpa using hopen) s
  | statements output executions =>
      cases executions with
      | nil =>
          refine sound_pure ?_ s
          trivial
      | cons node rest =>
          obtain ⟨hnode, hrest⟩ := List.forall_mem_cons.1 ha
          refine ⟨hnode, fun first _ herrors => ?_⟩
          cases first with
          | returned v => trivial
          | abort failure => exact herrors
          | _ => exact hrest
  | store target v => trivial
  | call name loc values nodes =>
      cases nodes with
      | nil => exact L.sound_nextInvoke hctx name loc values s
      | cons node rest =>
          obtain ⟨hnode, hrest⟩ := List.forall_mem_cons.1 ha
          exact sound_onValue hnode (fun _ h => h) (fun _ h => h) fun _ => hrest
  | host name loc entry arguments => exact sound_callHost hctx ha s
  | script loc params body arguments => exact L.sound_nextScript loc params ha arguments s
  | loop target list body separator =>
      obtain ⟨hlist, hbody, hseparator⟩ := ha
      refine sound_onValue hlist (fun _ h => h) (fun _ h => h) fun items => ?_
      split
      · exact hbody
      · next hpresent => exact ⟨hbody, hseparator (by simpa using hpresent)⟩
  | separated target body separator items =>
      exact sound_onValue ha.2 (fun _ h => h) (fun _ h => h) fun _ => ha.1
  | pieces target body output rest =>
      cases rest with
      | nil =>
          refine sound_pure ?_ s
          trivial
      | cons text rest =>
          refine sound_onValue ?_ (fun _ h => h) (fun _ h => h) fun _ => ?_
          · exact ha
          · exact ha
  | piece target text body => exact ha
  | rounds condition body count output =>
      cases count with
      | zero =>
          intro signal t hrun
          cases hrun
      | succ count =>
          refine sound_onValue ha.1 (fun _ h => h) (fun _ h => h) fun v => ?_
          split
          · exact ha
          · trivial
  | round condition body count output =>
      exact sound_onValue ha.2 (fun _ h => h) (fun _ h => h) fun _ => ha

end Legality

/-- The error of an abort of a legal activity, where calls resolve to functions
that are held to the same. -/
theorem errors_of_legality {E : ScriptError → Prop} {legal : Slot → Node → Prop}
    (L : Legality E legal) {host : Host H} {ctx : Context H}
    (hctx : ctx.registry.Lawful E legal host) {fuel : Nat} {a : Activity H}
    (ha : a.Legal E legal ctx) {s t : State} {signal : Signal}
    (hrun : a.run host fuel ctx s = .done signal t) : signal.Errors E :=
  errors_of_steps (fun fuel a s => L.next_sound hctx fuel a s) ha hrun

/-! ## All trees -/

/-- The error of a value slot without a value. -/
def noResult : ScriptError := .internal "value produced no result"

/-- A host function of the registry answers with this error. -/
def HostRaises (host : Host H) (registry : Registry H) (e : ScriptError) : Prop :=
  ∃ name overload entry arguments world,
    registry.resolve name (List.length arguments) = .ok overload ∧
      overload.body = .host entry ∧
      (host.call entry registry arguments world).1 = .error e

/-- A result is missing only where a host function says so. -/
def NoResultOfHost (host : Host H) (registry : Registry H) (e : ScriptError) : Prop :=
  e = noResult → HostRaises host registry e

theorem noResultOfHost_internal {host : Host H} {registry : Registry H}
    {detail : String} (h : detail.toList.head? ≠ some 'v') :
    NoResultOfHost host registry (.internal detail) := by
  intro hno
  have hdetail : detail = "value produced no result" := ScriptError.internal.inj hno
  rw [hdetail] at h
  exact absurd (by simp) h

/-- Whatever stands in whatever slot. -/
theorem legality_anything (host : Host H) (registry : Registry H) :
    Legality (NoResultOfHost host registry) fun _ _ => True where
  part _ _ _ _ := trivial
  effect _ _ := trivial
  confused what hwhat _ _ _ _ := by
    refine noResultOfHost_internal ?_
    simp only [confusions, List.mem_cons, List.not_mem_nil, or_false] at hwhat
    rcases hwhat with rfl | rfl | rfl <;> simp
  reported h hno := absurd hno (h _)

theorem lawful_anything (host : Host H) (registry : Registry H) :
    registry.Lawful (NoResultOfHost host registry) (fun _ _ => True) host := by
  intro name count overload hresolve
  cases hbody : overload.body with
  | script tree => exact fun _ => trivial
  | host entry =>
      rintro arguments world rfl
      refine ⟨fun e he _ => ?_, fun kind _ => ?_⟩
      · exact ⟨name, overload, entry, arguments, world, hresolve, hbody, he⟩
      · exact noResultOfHost_internal (by simp)

/-- A result is missing only where a host function says so. -/
theorem evaluate_noResult {host : Host H} {fuel : Nat} {ctx : Context H} {task : Task}
    {s t : State} {loc : Option Loc}
    (h : evaluate host fuel ctx task s = .done (.abort ⟨noResult, loc⟩) t) :
    HostRaises host ctx.registry noResult := by
  have L := legality_anything host ctx.registry
  have hctx := lawful_anything host ctx.registry
  suffices herrors : (Signal.abort ⟨noResult, loc⟩).Errors
      (NoResultOfHost host ctx.registry) from herrors rfl
  cases task with
  | value node => exact errors_of_legality L hctx (a := .value node) trivial h
  | statements executions =>
      cases fuel with
      | zero => cases h
      | succ fuel =>
          exact errors_of_legality L hctx (a := .statements Value.truthy executions)
            (fun _ _ => trivial) h

/-- The signals of evaluation, whatever the tree.  Values, blocks, control
statements and lists of statements are left with a value, a return or an abort;
calls of functions with a value or an abort, so that a return that leaves a call
is that of an argument; an open statement proceeds only if it is an assignment
and clears only if it is a `clear`.  So what is cleared is the result of the
list that the `clear` stands in, no value slot lacks its result, and the top
level knows every signal that it meets. -/
theorem signal_discipline (host : Host H) (fuel rounds : Nat) (ctx : Context H) :
    (∀ node, (evalValue host (evaluate host fuel) ctx rounds node).Signals OfValue) ∧
    (∀ executions,
      (evalBlock host (evaluate host fuel) ctx executions).Signals OfValue) ∧
    (∀ node, (evalControl (evaluate host fuel) ctx rounds node).Signals OfValue) ∧
    (∀ output executions,
      (evalStatements host (evaluate host fuel) ctx output executions).Signals OfValue) ∧
    (∀ loc params body arguments,
      (callScript (evaluate host fuel) ctx loc params body arguments).Signals OfCall) ∧
    (∀ name loc entry arguments,
      (callHost host (evaluate host fuel) ctx name loc entry arguments).Signals OfCall) ∧
    (∀ name nodes loc,
      (evalCall host (evaluate host fuel) ctx name nodes loc).Signals OfValue ∧
      ∀ s t v,
        evalCall host (evaluate host fuel) ctx name nodes loc s = .done (.returned v) t →
        ∃ before node behind values u, nodes = before ++ node :: behind ∧
          evalArguments (evaluate host fuel) ctx before s = .done (.ok values) u ∧
          evaluate host fuel ctx (.value node) u = .done (.returned v) t) ∧
    (∀ node, (evalOpen host (evaluate host fuel) ctx node).Signals fun signal =>
      (signal = .proceed → ∃ target held loc, node = .assign target held loc) ∧
        ∀ v, signal = .cleared v → ∃ held loc, node = .clearWith held loc) ∧
    (∀ output node rest s t v,
      evalStatement host (evaluate host fuel) ctx node s = .done (.cleared v) t →
      (∃ held loc, node = .clearWith held loc) ∧
        evalStatements host (evaluate host fuel) ctx output (node :: rest) s =
          evalStatements host (evaluate host fuel) ctx v rest t) ∧
    (∀ task s t loc,
      evaluate host fuel ctx task s = .done (.abort ⟨noResult, loc⟩) t →
        HostRaises host ctx.registry noResult) ∧
    ∀ executions s t failure,
      execute host fuel ctx executions s = .done (.error failure) t →
        evaluate host fuel ctx (.statements executions) s =
          .done (.abort failure) t := by
  refine ⟨fun node s signal t h => ?_, fun executions s signal t h => ?_,
    fun node s signal t h => ?_, fun output executions s signal t h => ?_,
    fun loc params body arguments s signal t h => ?_,
    fun name loc entry arguments s signal t h => ?_,
    fun name nodes loc => ⟨fun s signal t h => ?_, fun s t v h => evalCall_returned h⟩,
    signals_evalOpen, fun output node rest s t v h => ?_,
    fun task s t loc h => evaluate_noResult h,
    fun executions s t failure h => execute_error h⟩
  · rw [← run_inside] at h
    exact signals_inside rounds node (run_signals h)
  · exact run_signals (a := .block executions) h
  · exact run_signals (a := .control rounds node) h
  · exact run_signals (a := .statements output executions) h
  · exact run_signals (a := .script loc params body arguments) h
  · exact run_signals (a := .host name loc entry arguments) h
  · have hsignals := run_signals (a := .call name loc [] nodes) h
    cases nodes with
    | nil => exact OfCall.ofValue hsignals
    | cons node rest => exact hsignals
  · exact evalStatements_of_cleared h output rest

end Evaluator

end TextShell
