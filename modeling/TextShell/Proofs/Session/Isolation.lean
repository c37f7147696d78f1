import TextShell.Proofs.Eval.History
import TextShell.Proofs.Session.Legality
import TextShell.Proofs.Session.Splitting

/-!
# Sources are isolated from each other

A source is refused before anything of it is executed, or it is executed.  One that
is refused changes nothing and leaves a single record, that of the error.  One that
is executed begins with no records and with no calls active, on the functions and
the global variables of the session, and on the outside as the sources before it have
left it: what is drawn and what is replied next.  Nothing else of these sources can be
told from what it does.  In either case the records say whether it failed: only the
session sends errors, and it sends one last.

## Main results

* `handle_of_refusal`, `handle_of_accepted_eq` — the two ways to handle a source.
* `handle_atop`, `handle_settings` — a source leaves the history before it and the settings
  alone.
* `Builtin.host_discreet` — the built-in functions are discreet.
* `sources_are_isolated` — what is to be expected of a session.
-/

namespace TextShell

/-! ## The built-in functions -/

namespace World

variable {α β : Type}

/-- The world stays as it is. -/
theorem discreet_still (a : α) : Discreet fun w => (a, w) where
  atop _ _ := rfl
  quiet w := .refl w

theorem Discreet.map {g : World → α × World} (hg : Discreet g) (f : α → β) :
    Discreet fun w => (f (g w).1, (g w).2) where
  atop w past := by rw [hg.atop]
  quiet w := hg.quiet w

/-- A number is drawn from the generator alone. -/
theorem discreet_draw (bound : Nat) : Discreet fun w => w.draw bound where
  atop _ _ := rfl
  quiet w := .refl w

end World

namespace Network

theorem clock_atop (n : Network) (logged : Array NetworkEvent) :
    (n.atop logged).clock = n.clock := rfl

theorem record_atop (n : Network) (logged : Array NetworkEvent) (event : NetworkEvent) :
    (n.atop logged).record event = (n.record event).atop logged := by
  simp [record, atop]

theorem request_atop (n : Network) (logged : Array NetworkEvent) (method url : String)
    (headers : List (Document × Document)) :
    (n.atop logged).request method url headers =
      ((n.request method url headers).1, (n.request method url headers).2.atop logged) := by
  obtain ⟨outcomes, log, clock⟩ := n
  cases outcomes <;> simp [request, record, atop]

/-- Requests do not depend on what was done before. -/
theorem attempt_atop (n : Network) (logged : Array NetworkEvent) (config : RequestConfig)
    (method url : String) (number left : Nat) :
    attempt config method url number left (n.atop logged) =
      ((attempt config method url number left n).1,
        (attempt config method url number left n).2.atop logged) := by
  induction left generalizing number n with
  | zero =>
      unfold attempt
      rw [request_atop]
      dsimp only
      split <;> rfl
  | succ left ih =>
      unfold attempt
      simp only [request_atop, clock_atop]
      split
      · rfl
      · split_ifs
        · split
          · rfl
          · split
            · rfl
            · rw [record_atop, ih]
        · rfl

theorem fetch_atop (n : Network) (logged : Array NetworkEvent) (config : RequestConfig)
    (method url : String) :
    (n.atop logged).fetch config method url =
      ((n.fetch config method url).1, (n.fetch config method url).2.atop logged) := by
  unfold fetch
  rw [record_atop]
  split_ifs
  · rfl
  · exact attempt_atop _ logged config _ url 0 _

theorem clock_request (n : Network) (method url : String)
    (headers : List (Document × Document)) :
    (n.request method url headers).2.clock = n.clock := by
  unfold request
  split <;> rfl

theorem clock_attempt (n : Network) (config : RequestConfig) (method url : String)
    (number left : Nat) : (attempt config method url number left n).2.clock = n.clock := by
  induction left generalizing number n with
  | zero =>
      unfold attempt
      dsimp only
      split <;> exact clock_request ..
  | succ left ih =>
      have hafter := n.clock_request method url config.headers
      unfold attempt
      dsimp only
      split
      · exact hafter
      · split_ifs
        · split
          · exact hafter
          · split
            · exact hafter
            · exact (ih _ _).trans hafter
        · exact hafter

/-- Requests leave the clock as it is. -/
theorem clock_fetch (n : Network) (config : RequestConfig) (method url : String) :
    (n.fetch config method url).2.clock = n.clock := by
  unfold fetch
  dsimp only
  split_ifs
  · rfl
  · exact clock_attempt ..

end Network

namespace Builtin

open World (Discreet discreet_still)

theorem discreet_print (text : String) :
    Discreet fun w : World => (Reply.value .truthy, w.emit "stdout" text) where
  atop _ _ := rfl
  quiet w := by
    refine ⟨fun e he => ?_, rfl⟩
    cases List.mem_cons.1 he with
    | inl hnew =>
        rw [hnew]
        exact .inr (by simp)
    | inr hold => exact .inl hold

theorem discreet_random (low high : Value) : Discreet (Operation.random low high) := by
  have hdraw (low high : Int) : Discreet (Operation.draw low high) := by
    unfold Operation.draw
    split
    · exact discreet_still _
    · exact (World.discreet_draw _).map fun n => Value.truthy (toString (low + n))
  unfold Operation.random
  split
  · exact discreet_still _
  · exact discreet_still _
  · exact (hdraw _ _).map _
  · exact discreet_still _

theorem discreet_fetch (config : RequestConfig) (url : String) :
    Discreet (Operation.fetch config url) where
  atop w past := by
    unfold Operation.fetch World.atop
    dsimp only
    rw [Network.fetch_atop]
    generalize w.network.fetch config "GET" url = answer
    obtain ⟨result, network⟩ := answer
    cases result with
    | failed fault caught => cases caught <;> rfl
    | _ => rfl
  quiet w := by
    have hclock := w.network.clock_fetch config "GET" url
    unfold Operation.fetch
    dsimp only
    generalize w.network.fetch config "GET" url = answer at hclock
    obtain ⟨result, network⟩ := answer
    have hkept : w.QuietSince { w with network := network } :=
      ⟨fun _ he => .inl he, Prod.ext rfl hclock⟩
    cases result with
    | failed fault caught => cases caught <;> exact hkept
    | _ => exact hkept

theorem discreet_get (url : String) (timeout : Option Value) :
    Discreet (Operation.get url timeout) where
  atop w past := by
    unfold Operation.get
    dsimp only
    cases timeout with
    | none => exact (discreet_fetch _ url).atop w past
    | some limit =>
        dsimp only
        split
        · rfl
        · rfl
        · split
          · rfl
          · exact (discreet_fetch _ url).atop w past
  quiet w := by
    unfold Operation.get
    dsimp only
    cases timeout with
    | none => exact (discreet_fetch _ url).quiet w
    | some limit =>
        dsimp only
        split
        · exact .refl w
        · exact .refl w
        · split
          · exact .refl w
          · exact (discreet_fetch _ url).quiet w

/-- A function that depends on its arguments alone, at any number of them. -/
theorem discreet_pure? (answer : Option Operation.Answer) :
    Discreet fun w => match answer with
      | some answer => (reply answer, w)
      | none => (.foreign "NoneType", w) := by
  cases answer <;> exact discreet_still _

/-- The built-in functions are discreet. -/
theorem host_discreet : host.Discreet := by
  intro b registry arguments
  have hpure := discreet_pure? (b.pure? arguments)
  cases b with
  | print newline => exact discreet_print _
  | eval => exact discreet_still _
  | listing hosts scripts => exact discreet_still _
  | random =>
      match arguments with
      | [high] => exact (discreet_random _ high).map reply
      | [low, high] => exact (discreet_random low high).map reply
      | [] => exact discreet_still _
      | _ :: _ :: _ :: _ => exact discreet_still _
  | get =>
      match arguments with
      | [url] => exact (discreet_get url.text none).map reply
      | [url, timeout] => exact (discreet_get url.text (some timeout)).map reply
      | [] => exact discreet_still _
      | _ :: _ :: _ :: _ => exact discreet_still _
  | _ => exact hpure

end Builtin

/-! ## The two ways to handle a source -/

namespace Session

variable {H : Type}

/-- The error with which a source is refused, before anything is executed. -/
def refusal? (s : Session H) (source : String) : Option String :=
  match Program.parse source with
  | .error e =>
    some (Excerpt.parseError e.message e.line.integer? e.col.integer? source)
  | .ok program =>
    match s.registry.addScripts program.functions with
    | .error rejected => some rejected.describe
    | .ok _ => none

/-- The session in which the statements of a source are executed: its functions are
registered, and nothing was sent yet. -/
def ready (s : Session H) (registry : Registry H) (messages : List String) : Session H :=
  { s with
    registry := registry
    world := messages.foldl (fun w message => w.note ("[runtime] " ++ message))
      s.world.clearEffects }

/-- What a session is set up with: the limit on calls, and the settings of the world. -/
def settings (s : Session H) : Int × Environment × Clock := (s.maxCallDepth, s.world.settings)

/-- What is made of the outcome of an execution that was begun in `s`. -/
def concluded (s : Session H) (o : Outcome (Except Failure Value)) : Report × Session H :=
  match verdict o with
  | .ok v => (⟨.ok v, (s.behind o).world.effects⟩, s.behind o)
  | .error d => (s.behind o).fail d.message d.loc

theorem handle_of_refusal (host : Host H) {s : Session H} {source message : String}
    (h : s.refusal? source = some message) :
    s.handle host source =
      (⟨.error ⟨message, none⟩, [⟨["stderr"], message⟩]⟩,
        { s with world := { s.world with sent := [⟨["stderr"], message⟩] } }) := by
  unfold refusal? at h
  unfold handle addFunctions
  cases hparse : Program.parse source with
  | error e =>
      rw [hparse] at h
      obtain rfl := Option.some.inj h
      rfl
  | ok program =>
      rw [hparse] at h
      dsimp only at h ⊢
      cases hadd : s.registry.addScripts program.functions with
      | error rejected =>
          rw [hadd] at h
          obtain rfl := Option.some.inj h
          rfl
      | ok answer =>
          rw [hadd] at h
          cases h

/-- A source that is not refused is executed with its functions. -/
theorem accepted_of_refusal {s : Session H} {source : String}
    (h : s.refusal? source = none) :
    ∃ p registry messages, Program.parse source = .ok p ∧
      s.registry.addScripts p.functions = .ok (registry, messages) := by
  unfold refusal? at h
  cases hparse : Program.parse source with
  | error e =>
      rw [hparse] at h
      cases h
  | ok p =>
      rw [hparse] at h
      dsimp only at h
      cases hadd : s.registry.addScripts p.functions with
      | error rejected =>
          rw [hadd] at h
          cases h
      | ok answer => exact ⟨p, answer.1, answer.2, rfl, hadd⟩

theorem handle_of_accepted_eq (host : Host H) {s : Session H} {source : String}
    {p : Program} (hparse : Program.parse source = .ok p) {registry : Registry H}
    {messages : List String}
    (hadd : s.registry.addScripts p.functions = .ok (registry, messages)) :
    s.handle host source =
      (s.ready registry messages).concluded
        (Evaluator.execute host standardFuel (s.ready registry messages).context
          p.executions (s.ready registry messages).start) := by
  have hready : addFunctions { s with world := s.world.clearEffects } p.functions =
      .ok (s.ready registry messages, messages) := by
    unfold addFunctions
    rw [hadd]
    rfl
  unfold handle
  simp only [hparse, hready, execute, perform, start]
  generalize Evaluator.execute host standardFuel (s.ready registry messages).context
    p.executions _ = o
  cases o with
  | done answer t => cases answer <;> rfl
  | raised fault t => rfl
  | outOfFuel => rfl

theorem foldl_note (messages : List String) (w : World) :
    messages.foldl (fun w message => w.note ("[runtime] " ++ message)) w =
      { w with
        traced := (messages.map fun message => "[DBG] " ++ ("[runtime] " ++ message)).reverse
          ++ w.traced } := by
  induction messages generalizing w with
  | nil => rfl
  | cons message rest ih =>
      rw [List.foldl_cons, ih]
      simp [World.note]

theorem ready_sent (s : Session H) (registry : Registry H) (messages : List String) :
    (s.ready registry messages).world.sent = [] := by
  unfold ready
  rw [foldl_note]
  rfl

theorem ready_settings (s : Session H) (registry : Registry H) (messages : List String) :
    (s.ready registry messages).settings = s.settings := by
  unfold ready
  rw [foldl_note]
  rfl

/-! ## The records of a source -/

theorem fail_effects (s : Session H) (message : String) (loc : Option Loc) :
    (s.fail message loc).1.effects = s.world.effects ++ [⟨["stderr"], message⟩] :=
  List.reverse_cons

theorem effects_concluded (s : Session H) (o : Outcome (Except Failure Value)) :
    (s.concluded o).2.world.effects = (s.concluded o).1.effects := by
  unfold concluded
  cases verdict o <;> rfl

/-- An error is the last record, and carries the message of the result. -/
theorem getLast?_of_error {s : Session H} {o : Outcome (Except Failure Value)}
    {d : Diagnosis} (h : (s.concluded o).1.result = .error d) :
    (s.concluded o).1.effects.getLast? = some ⟨["stderr"], d.message⟩ := by
  unfold concluded at h ⊢
  cases hverdict : verdict o with
  | ok v =>
      rw [hverdict] at h
      cases h
  | error e =>
      rw [hverdict] at h
      cases h
      rw [fail_effects, List.getLast?_append]
      rfl

/-- Without an error, the records are those of the execution. -/
theorem quiet_of_ok {s : Session H} {o : Outcome (Except Failure Value)}
    (hsent : s.world.sent = []) (hquiet : o.Leaves fun t => s.world.QuietSince t.world)
    {v : Value} (h : (s.concluded o).1.result = .ok v) :
    ∀ e ∈ (s.concluded o).1.effects, e.topics ≠ ["stderr"] := by
  have hended (w : World) (hw : s.world.QuietSince w) :
      ∀ e ∈ w.effects, e.topics ≠ ["stderr"] := by
    intro e he
    have hcases := hw.1 e (List.mem_reverse.1 he)
    rw [hsent] at hcases
    exact hcases.resolve_left List.not_mem_nil
  unfold concluded at h ⊢
  cases o with
  | done answer t =>
      cases answer with
      | ok w => exact hended t.world hquiet
      | error failure => cases h
  | raised fault t => cases h
  | outOfFuel => cases h

theorem error_of_getLast? {s : Session H} {o : Outcome (Except Failure Value)}
    (hsent : s.world.sent = []) (hquiet : o.Leaves fun t => s.world.QuietSince t.world)
    {message : String}
    (h : (s.concluded o).1.effects.getLast? = some ⟨["stderr"], message⟩) :
    ∃ d, (s.concluded o).1.result = .error d := by
  cases hresult : (s.concluded o).1.result with
  | error d => exact ⟨d, rfl⟩
  | ok v => exact absurd rfl (quiet_of_ok hsent hquiet hresult _ (List.mem_of_getLast? h))

/-- What is true of the execution of a source that is accepted, and of the report of one
that is refused, is true of every source that is handled. -/
theorem handle_induction {host : Host H} {s : Session H} {source : String}
    {P : Report × Session H → Prop}
    (refused : ∀ message, s.refusal? source = some message →
      P (⟨.error ⟨message, none⟩, [⟨["stderr"], message⟩]⟩,
        { s with world := { s.world with sent := [⟨["stderr"], message⟩] } }))
    (executed : ∀ (ready : Session H) (executions : List Node), ready.world.sent = [] →
      ready.settings = s.settings → P (ready.concluded
        (Evaluator.execute host standardFuel ready.context executions ready.start))) :
    P (s.handle host source) := by
  cases hrefusal : s.refusal? source with
  | some message =>
      rw [handle_of_refusal host hrefusal]
      exact refused message hrefusal
  | none =>
      obtain ⟨p, registry, messages, hparse, hadd⟩ := accepted_of_refusal hrefusal
      rw [handle_of_accepted_eq host hparse hadd]
      exact executed _ p.executions (ready_sent s registry messages)
        (ready_settings s registry messages)

/-! ## What came before -/

/-- The session with an older history below that of its world. -/
def atop (s : Session H) (past : History) : Session H :=
  { s with world := s.world.atop past }

theorem concluded_atop (s : Session H) (o : Outcome (Except Failure Value))
    {past : History} (hpast : past.sent = []) :
    (s.atop past).concluded (o.atop past) =
      ((s.concluded o).1, (s.concluded o).2.atop past) := by
  have hok (v : Value) (w : World) : (⟨.ok v, (w.atop past).effects⟩ : Report) =
      ⟨.ok v, w.effects⟩ := by
    simp [World.atop, World.effects, hpast]
  have hfail (s : Session H) (message : String) (loc : Option Loc) :
      (s.atop past).fail message loc =
        ((s.fail message loc).1, (s.fail message loc).2.atop past) := by
    simp [fail, atop, World.atop, World.emit, World.effects, hpast]
  cases o with
  | done answer t =>
      cases answer with
      | ok v => exact Prod.ext (hok v t.world) rfl
      | error failure =>
          exact hfail { s with globals := t.stack.globals, world := t.world } _ _
  | raised fault t => exact hfail { s with globals := t.stack.globals, world := t.world } _ _
  | outOfFuel => exact hfail s _ _

theorem ready_atop (s : Session H) (registry : Registry H) (messages : List String)
    (past : History) :
    (s.atop past).ready registry messages =
      (s.ready registry messages).atop { past with sent := [] } := by
  unfold ready atop
  simp [foldl_note, World.atop, World.clearEffects]

/-- A source leaves the history before it alone: the records are cleared, and the trace and
the log of the network go on. -/
theorem handle_atop {host : Host H} (hhost : host.Discreet) (s : Session H)
    (past : History) (source : String) :
    (s.atop past).handle host source =
      ((s.handle host source).1,
        (s.handle host source).2.atop { past with sent := [] }) := by
  cases hrefusal : s.refusal? source with
  | some message =>
      rw [handle_of_refusal host hrefusal,
        handle_of_refusal host (s := s.atop past) hrefusal]
      rfl
  | none =>
      obtain ⟨p, registry, messages, hparse, hadd⟩ := accepted_of_refusal hrefusal
      have hrun := (Evaluator.execute_discreet hhost standardFuel
        (s.ready registry messages).context p.executions).atop
          (s.ready registry messages).start { past with sent := [] }
      rw [handle_of_accepted_eq host hparse hadd,
        handle_of_accepted_eq host (s := s.atop past) hparse hadd, ready_atop]
      show concluded _ (Evaluator.execute host standardFuel
        (s.ready registry messages).context p.executions
          ((s.ready registry messages).start.atop { past with sent := [] })) = _
      rw [hrun, concluded_atop _ _ rfl]

/-- The sessions have the same functions and the same global variables, and the same numbers
are drawn and the same replies are to come next. -/
structure SameBasis (s t : Session H) : Prop where
  registry : s.registry = t.registry
  globals : s.globals = t.globals
  generator : s.world.generator = t.world.generator
  outcomes : s.world.network.outcomes = t.world.network.outcomes

/-- The sessions differ at most in what was sent, traced and done on the network. -/
structure SameButHistory (s t : Session H) : Prop extends s.SameBasis t where
  settings : s.settings = t.settings

/-- Two such sessions are one session on top of two histories. -/
theorem SameButHistory.exists_atop {s t : Session H} (h : s.SameButHistory t) :
    ∃ (base : Session H) (past past' : History), s = base.atop past ∧
      t = base.atop past' := by
  let bare : World :=
    { s.world with sent := [], traced := [], network := { s.world.network with log := #[] } }
  have hatop (u : Session H) (hu : s.SameButHistory u) :
      u = atop { s with world := bare } ⟨u.world.sent, u.world.traced, u.world.network.log⟩ := by
    obtain ⟨registry, globals, ⟨sent, traced, ⟨outcomes, log, clock⟩, env, generator⟩, max⟩ := u
    obtain ⟨⟨hregistry, hglobals, hgenerator, houtcomes⟩, hsettings⟩ := hu
    simp_all [Session.settings, World.settings, atop, World.atop, Network.atop, bare]
  exact ⟨_, _, _, hatop s ⟨⟨rfl, rfl, rfl, rfl⟩, rfl⟩, hatop t h⟩

theorem sameButHistory_atop (s : Session H) (past past' : History) :
    (s.atop past).SameButHistory (s.atop past') :=
  ⟨⟨rfl, rfl, rfl, rfl⟩, rfl⟩

theorem SameButHistory.handle {host : Host H} (hhost : host.Discreet) {s t : Session H}
    (h : s.SameButHistory t) (source : String) :
    (s.handle host source).1 = (t.handle host source).1 ∧
      (s.handle host source).2.SameButHistory (t.handle host source).2 := by
  obtain ⟨base, past, past', rfl, rfl⟩ := h.exists_atop
  rw [handle_atop hhost base past, handle_atop hhost base past']
  exact ⟨rfl, sameButHistory_atop _ _ _⟩

theorem concluded_settings {s : Session H} {o : Outcome (Except Failure Value)}
    (h : o.Leaves fun t => s.world.QuietSince t.world) :
    (s.concluded o).2.settings = s.settings := by
  have hbehind : (s.behind o).settings = s.settings := by
    cases o with
    | done answer t => exact Prod.ext rfl h.2
    | raised fault t => exact Prod.ext rfl h.2
    | outOfFuel => rfl
  unfold concluded
  cases verdict o <;> exact hbehind

/-- A source leaves the session set up as it is. -/
theorem handle_settings {host : Host H} (hhost : host.Discreet) (s : Session H)
    (source : String) : (s.handle host source).2.settings = s.settings := by
  refine handle_induction (P := fun r => r.2.settings = s.settings) (fun _ _ => rfl) ?_
  intro ready executions _ hready
  rw [concluded_settings, hready]
  exact (Evaluator.execute_discreet hhost standardFuel ready.context executions).quiet ready.start

theorem after_settings {host : Host H} (hhost : host.Discreet) (s : Session H)
    (sources : List String) : (s.after host sources).settings = s.settings := by
  induction sources generalizing s with
  | nil => rfl
  | cons source rest ih => exact (ih _).trans (handle_settings hhost s source)

/-- A source cannot tell the sources before it apart that leave the same basis. -/
theorem SameBasis.handle_after {host : Host H} (hhost : host.Discreet) {s : Session H}
    {earlier earlier' : List String}
    (h : (s.after host earlier).SameBasis (s.after host earlier')) (source : String) :
    ((s.after host earlier).handle host source).1 =
      ((s.after host earlier').handle host source).1 := by
  have hsettings : (s.after host earlier).settings = (s.after host earlier').settings := by
    rw [after_settings hhost, after_settings hhost]
  exact (SameButHistory.handle hhost ⟨h, hsettings⟩ source).1

/-- However an execution ends, no calls are left active. -/
theorem perform_callDepth (host : Host H) (s : Session H) (executions : List Node) :
    (s.perform (Evaluator.execute host standardFuel s.context executions)).2.2.callDepth =
      0 := by
  have hexecute : Run.KeepsCallDepth
      (Evaluator.execute host standardFuel s.context executions) :=
    -- The first unit of the fuel goes into looking at the list.
    (Evaluator.run_callDepth host s.context (standardFuel - 1)
      (.statements Value.truthy executions)).bind fun _ _ => rfl
  have hkept := hexecute { stack := { globals := s.globals }, world := s.world }
  unfold perform
  dsimp only
  cases hrun : Evaluator.execute host standardFuel s.context executions
      { stack := { globals := s.globals }, world := s.world } with
  | done answer t =>
      rw [hrun] at hkept
      exact hkept
  | raised fault t =>
      rw [hrun] at hkept
      exact hkept
  | outOfFuel => rfl

/-- What is to be expected of a session, whatever sources it has handled before: a source
fails before its execution without a trace, its records are its own and say whether it
failed, and nothing of what came before matters to it but the functions, the global
variables, and what is left of the numbers to draw and of the replies to come. -/
theorem sources_are_isolated {host : Host H} (hhost : host.Discreet) (s : Session H)
    (source : String) :
    -- A source that is refused changes nothing but the records, of which one is left.
    (∀ message, s.refusal? source = some message →
      s.handle host source =
        (⟨.error ⟨message, none⟩, [⟨["stderr"], message⟩]⟩,
          { s with world := { s.world with sent := [⟨["stderr"], message⟩] } })) ∧
    -- The records of the report are all that the session keeps.
    (s.handle host source).2.world.effects = (s.handle host source).1.effects ∧
    -- The last record is an error exactly if the result is one, and has its message.
    (∀ d, (s.handle host source).1.result = .error d →
      (s.handle host source).1.effects.getLast? = some ⟨["stderr"], d.message⟩) ∧
    (∀ message, (s.handle host source).1.effects.getLast? = some ⟨["stderr"], message⟩ →
      ∃ d, (s.handle host source).1.result = .error d) ∧
    -- No calls are left active.
    (∀ executions, (s.perform (Evaluator.execute host standardFuel s.context
      executions)).2.2.callDepth = 0) ∧
    -- What was sent, traced and done on the network before makes no difference, now and later.
    (∀ t, s.SameButHistory t →
      (s.handle host source).1 = (t.handle host source).1 ∧
        (s.handle host source).2.SameButHistory (t.handle host source).2) ∧
    -- So any sources before make the same of it if they leave the same basis.
    ∀ earlier earlier', (s.after host earlier).SameBasis (s.after host earlier') →
      ((s.after host earlier).handle host source).1 =
        ((s.after host earlier').handle host source).1 := by
  refine ⟨fun message h => handle_of_refusal host h, ?kept, ?failed, ?succeeded,
    perform_callDepth host s, fun t h => h.handle hhost source,
    fun _ _ h => h.handle_after hhost source⟩
  case kept =>
    refine handle_induction (P := fun r => r.2.world.effects = r.1.effects) ?_ ?_
    · exact fun message _ => rfl
    · exact fun ready executions _ _ => effects_concluded ready _
  case failed =>
    intro d
    refine handle_induction (P := fun r => r.1.result = .error d →
      r.1.effects.getLast? = some ⟨["stderr"], d.message⟩) ?_ ?_
    · rintro message - ⟨⟩
      rfl
    · exact fun ready executions _ _ => getLast?_of_error
  case succeeded =>
    intro message
    refine handle_induction (P := fun r => r.1.effects.getLast? = some ⟨["stderr"], message⟩ →
      ∃ d, r.1.result = .error d) ?_ ?_
    · exact fun message _ _ => ⟨_, rfl⟩
    · intro ready executions hsent _
      exact error_of_getLast? hsent ((Evaluator.execute_discreet hhost standardFuel
        ready.context executions).quiet ready.start)

/-- A source that cannot be read, behind one that can; and one that can be read, on two
histories. -/
theorem sources_are_isolated_unreadable :
    ∃ s : Session Builtin, s = (Console.start {}).after Builtin.host ["x = 1"] ∧
      s.refusal? "\x7d" = some "ParseError: parse failed" ∧
      (s.handle Builtin.host "\x7d").2.registry = s.registry ∧
      (s.handle Builtin.host "\x7d").2.globals = s.globals ∧
      (s.handle Builtin.host "\x7d").1.effects =
        [⟨["stderr"], "ParseError: parse failed"⟩] ∧
      ∃ t, s.SameButHistory t ∧ s.world.effects ≠ t.world.effects ∧
        s.world.network.log.size ≠ t.world.network.log.size ∧
        (s.handle Builtin.host "y = $x").1 = (t.handle Builtin.host "y = $x").1 ∧
        (s.handle Builtin.host "y = $x").1 =
          ((s.after Builtin.host ["\x7d"]).handle Builtin.host "y = $x").1 := by
  have hunread : (Program.parse "\x7d").toOption.isSome = false := by decide +kernel
  have hrefusal (s : Session Builtin) :
      s.refusal? "\x7d" = some "ParseError: parse failed" := by
    unfold refusal?
    cases hparse : Program.parse "\x7d" with
    | ok p => simp [hparse, Except.toOption] at hunread
    | error e =>
        obtain rfl := parse_error hparse
        rfl
  refine ⟨_, rfl, hrefusal _, ?_⟩
  have hisolated := sources_are_isolated Builtin.host_discreet
    ((Console.start {}).after Builtin.host ["x = 1"]) "\x7d"
  have hlater := sources_are_isolated Builtin.host_discreet
    ((Console.start {}).after Builtin.host ["x = 1"]) "y = $x"
  generalize (Console.start {}).after Builtin.host ["x = 1"] = s at hisolated hlater
  have hrefused := hisolated.1 _ (hrefusal s)
  have hsame : s.SameButHistory (s.atop ⟨[⟨["stdout"], "older"⟩], [], #[.opened 5.0]⟩) :=
    ⟨⟨rfl, rfl, rfl, rfl⟩, rfl⟩
  have hbasis : s.SameBasis (s.after Builtin.host ["\x7d"]) := by
    show s.SameBasis (s.handle Builtin.host "\x7d").2
    rw [hrefused]
    exact ⟨rfl, rfl, rfl, rfl⟩
  obtain ⟨-, -, -, -, -, hhistory, hearlier⟩ := hlater
  refine ⟨by rw [hrefused], by rw [hrefused], by rw [hrefused], _, hsame, ?_, ?_,
    (hhistory _ hsame).1, hearlier [] ["\x7d"] hbasis⟩
  · simp [atop, World.atop, World.effects]
  · simp [atop, World.atop, Network.atop]

/-- A session with two replies to come. -/
def awaiting : Session Builtin :=
  Console.start { network := { outcomes := [.response 200 "one", .response 200 "two"] } }

/-- A source that asks for a reply takes it, so the functions and the global variables do
not determine what the next source comes to. -/
theorem replies_outlast_sources :
    let later := (awaiting.handle Builtin.host "get http://h/").2
    later.registry = awaiting.registry ∧ later.globals = awaiting.globals ∧
      (awaiting.handle Builtin.host "get http://h/").1.result = .ok (.truthy "one") ∧
      (later.handle Builtin.host "get http://h/").1.result = .ok (.truthy "two") := by
  intro later
  have hregistry : later.registry = awaiting.registry := by
    have hcount : (Program.parse "get http://h/").toOption.map (·.functions.length) = some 0 := by
      decide +kernel
    cases hparse : Program.parse "get http://h/" with
    | error e => simp [hparse, Except.toOption] at hcount
    | ok p =>
        have hnone : p.functions = [] := by simpa [hparse, Except.toOption] using hcount
        have hadd : awaiting.registry.addScripts p.functions = .ok (awaiting.registry, []) := by
          rw [hnone]
          rfl
        exact (handle_of_accepted Builtin.host awaiting hparse hadd).1
  have hok {r : Except Diagnosis Value} {v : Value} (h : r.toOption = some v) : r = .ok v := by
    cases r <;> simp_all [Except.toOption]
  exact ⟨hregistry, by decide +kernel, hok (by decide +kernel), hok (by decide +kernel)⟩

end Session

end TextShell
