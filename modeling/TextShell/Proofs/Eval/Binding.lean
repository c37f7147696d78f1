import TextShell.Proofs.Eval.Discipline
import TextShell.Proofs.Program.RoundTrip
import TextShell.Proofs.Registry

/-!
# The parameters of a call

How many arguments a function takes is worked out from the length of its
parameter list, and its parameters are bound by going through that list, up to
the first variadic one, which takes all that is left.  The two have to agree: a
list that is accepted must not be used up too early, and of a list of the usual
form, with distinct names and no variadic parameter but the last, nothing may be
left over.

Both hold.  What the first does not rule out is a variadic parameter that is not
the last.  A function with one is accepted by the grammar and can be called, but
the parameters behind the variadic one are not *reached*, and are not bound when
its body starts.

## Main results

* `bindParams_of_accepts` — an argument list that is accepted is long enough.
* `declareParams_eq` — the parameters are declared in the frame of the call, and
  nowhere else.
* `callScript_eq_body` — the state in which the body of a call starts.
* `binds_of_bindParams` — what the parameters of a usual list are bound to.
* `contains_bindParams` — which parameters are bound, of any list.
* `binding_is_exact`, `bound_parameters_of_definition` — calls of any overload,
  and of the functions in an accepted source.
-/

namespace TextShell

namespace Evaluator

variable {H : Type}

/-! ## Enough arguments -/

/-- There are arguments enough if each parameter has one, or all but one do and
some parameter is variadic. -/
theorem bindParams_ok {params : List Param} {arguments : List Value} (frame : Scope)
    (h : params.length ≤ arguments.length ∨
      params.any Param.isVariadic = true ∧ params.length ≤ arguments.length + 1) :
    ∃ bound, bindParams frame params arguments = .ok bound := by
  induction params generalizing frame arguments with
  | nil => exact ⟨frame, rfl⟩
  | cons param params ih =>
      unfold bindParams
      by_cases hvariadic : param.isVariadic = true
      · rw [if_pos hvariadic]
        exact ⟨_, rfl⟩
      · rw [if_neg hvariadic]
        rw [List.any_cons, Bool.eq_false_iff.2 hvariadic, Bool.false_or] at h
        cases arguments with
        | nil =>
            -- The variadic parameter would be behind this one.
            cases params with
            | nil => simp at h
            | cons => simp at h
        | cons v rest =>
            apply ih
            simp only [List.length_cons] at h
            rcases h with hall | ⟨hany, hbut⟩
            · exact .inl (by omega)
            · exact .inr ⟨hany, by omega⟩

/-- An overload binds its parameters to every list of arguments that it accepts. -/
theorem bindParams_of_accepts {o : Overload H} {arguments : List Value}
    (h : o.accepts arguments.length = true) :
    ∃ bound, bindParams {} o.params arguments = .ok bound := by
  obtain ⟨hleast, -⟩ := Overload.accepts_iff.1 h
  unfold Overload.minArgs Overload.isVariadic at hleast
  apply bindParams_ok
  by_cases hvariadic : o.params.any Param.isVariadic = true
  · rw [if_pos hvariadic] at hleast
    exact .inr ⟨hvariadic, by omega⟩
  · rw [if_neg hvariadic] at hleast
    exact .inl (by omega)

/-- An overload without a variadic parameter accepts as many arguments as it has
parameters. -/
theorem length_of_accepts {o : Overload H} {arguments : List Value}
    (h : o.accepts arguments.length = true)
    (hnone : ∀ param ∈ o.params, param.isVariadic = false) :
    arguments.length = o.params.length := by
  have hvariadic : o.isVariadic = false := by
    simpa [Overload.isVariadic] using hnone
  obtain ⟨hleast, hmost⟩ := Overload.accepts_iff.1 h
  unfold Overload.minArgs at hleast
  unfold Overload.maxArgs? at hmost
  rw [hvariadic] at hleast hmost
  have hle : (arguments.length : Int) ≤ o.params.length := hmost o.params.length rfl
  have hge : (o.params.length : Int) ≤ arguments.length := hleast
  omega

/-! ## Where parameters are declared -/

/-- Declares the parameters of a call, one after the other, in the scopes as they are. -/
def declareParams (stack : ScopeStack) : List Param → List Value → Except Fault ScopeStack
  | [], _ => .ok stack
  | param :: params, arguments =>
    if param.isVariadic then .ok (stack.declare param.name (Value.join arguments))
    else match arguments with
      | [] => .error (.reported "IndexError" "pop from empty list")
      | v :: rest => declareParams (stack.declare param.name v) params rest

/-- All of them go to the innermost frame, whatever there is around it. -/
theorem declareParams_eq (globals frame : Scope) (outer : List Scope) (params : List Param)
    (arguments : List Value) :
    declareParams ⟨globals, frame :: outer⟩ params arguments =
      (bindParams frame params arguments).map fun bound => ⟨globals, bound :: outer⟩ := by
  induction params generalizing frame arguments with
  | nil => rfl
  | cons param params ih =>
      unfold declareParams bindParams
      by_cases hvariadic : param.isVariadic = true
      · rw [if_pos hvariadic, if_pos hvariadic]
        rfl
      · rw [if_neg hvariadic, if_neg hvariadic]
        cases arguments with
        | nil => rfl
        | cons v rest => exact ih (frame.put param.name v) rest

/-- The state in which the body of a call starts: a fresh frame over the frame of the
call, and below these only the globals. -/
def bodyStart (s : State) (frame : Scope) : State :=
  { s with
    stack := { globals := s.stack.globals, frames := [{}, frame] }
    callDepth := s.callDepth + 1 }

/-- The state behind a call that was made in `s` and whose body has ended in `t`. -/
def afterCall (s t : State) : State :=
  { t with
    stack := { t.stack with frames := s.stack.frames }
    callDepth := t.callDepth - 1 }

/-- What becomes of a call that was made in `s`, from the way in which its body ends. -/
def callOutcome (s : State) : Outcome Signal → Outcome Signal
  | .done signal t => .done (unwind signal) (afterCall s t)
  | .raised fault t => .raised fault (afterCall s t)
  | .outOfFuel => .outOfFuel

/-- The statements of a body run from that state, and the call goes on behind them. -/
theorem called_inFrame (frame : Scope) (x : Run Signal) (s : State) :
    Run.called frame (Run.inFrame x) s =
      match x (bodyStart s frame) with
      | .done signal t => .done signal (afterCall s t)
      | .raised fault t => .raised fault (afterCall s t)
      | .outOfFuel => .outOfFuel := by
  unfold Run.called Run.inFrame Run.within
  generalize hx : x _ = outcome
  change x (bodyStart s frame) = outcome at hx
  rw [hx]
  cases outcome <;> rfl

/-- A call whose parameters can be bound is the run of its body from that state. -/
theorem callScript_eq_body {host : Host H} {ctx : Context H} {params : List Param}
    {arguments : List Value} {frame : Scope} (h : bindParams {} params arguments = .ok frame)
    {s : State} (hdepth : (s.callDepth : Int) < ctx.maxCallDepth) (fuel : Nat)
    (loc place : Option Loc) (executions : List Node) :
    callScript (evaluate host (fuel + 1)) ctx loc params (.block executions place) arguments s =
      callOutcome s (evalStatements host (evaluate host fuel) ctx Value.truthy executions
        (bodyStart s frame)) := by
  have hbody : Run.called frame
      (evaluate host (fuel + 1) ctx (.value (.block executions place))) s = _ :=
    called_inFrame frame (evalStatements host (evaluate host fuel) ctx Value.truthy executions) s
  rw [callScript, if_neg (by omega), h]
  dsimp only
  rw [hbody]
  cases evalStatements host (evaluate host fuel) ctx Value.truthy executions
      (bodyStart s frame) with
  | done signal t => cases signal <;> rfl
  | raised fault t => rfl
  | outOfFuel => rfl

/-! ## What parameters are bound to -/

/-- The value of a variadic parameter: the texts of the arguments that are left with a
space between them, under the status of the last. -/
structure JoinOf (rest : List Value) (v : Value) : Prop where
  text : v.text = " ".intercalate (rest.map Value.text)
  status : ∀ last, rest.getLast? = some last → v.status = last.status
  nothing : rest = [] → v = ⟨"", 0⟩

theorem joinOf_join (rest : List Value) : JoinOf rest (Value.join rest) where
  text := rfl
  status last hlast := by simp [Value.join, hlast]
  nothing hnil := by
    subst hnil
    rfl

/-- The frame of a call binds exactly the parameters, in order: one that is positional to
the argument in its place, and a variadic one to the join of the arguments from its place
on.  Without a variadic one there are no arguments left over. -/
structure Binds (params : List Param) (arguments : List Value) (frame : Scope) : Prop where
  names : frame.bindings.map Prod.fst = params.map Param.name
  positional : ∀ (i : Nat) (param : Param), params[i]? = some param → param.isVariadic = false →
    ∃ v, arguments[i]? = some v ∧ frame.get? param.name = some v
  variadic : ∀ (i : Nat) (param : Param), params[i]? = some param → param.isVariadic = true →
    ∃ v, JoinOf (arguments.drop i) v ∧ frame.get? param.name = some v
  exhausted : (∀ param ∈ params, param.isVariadic = false) →
    arguments.length = params.length

/-- The bindings that are added for parameters of which only the last may be variadic. -/
inductive Adds : List Param → List Value → List (String × Value) → Prop
  | nil (arguments : List Value) : Adds [] arguments []
  | positional {param : Param} {params : List Param} {rest : List Value}
      {added : List (String × Value)} (v : Value) (hparam : param.isVariadic = false)
      (h : Adds params rest added) : Adds (param :: params) (v :: rest) ((param.name, v) :: added)
  | variadic {param : Param} (arguments : List Value) (hparam : param.isVariadic = true) :
      Adds [param] arguments [(param.name, Value.join arguments)]

theorem Adds.names {params : List Param} {arguments : List Value}
    {added : List (String × Value)} (h : Adds params arguments added) :
    added.map Prod.fst = params.map Param.name := by
  induction h with
  | nil arguments => rfl
  | positional v hparam h ih => rw [List.map_cons, List.map_cons, ih]
  | variadic arguments hparam => rfl

/-- Each parameter is among the added bindings with its own argument, or with the join of
those from its place on. -/
theorem Adds.mem {params : List Param} {arguments : List Value}
    {added : List (String × Value)} (h : Adds params arguments added) {i : Nat} {param : Param}
    (hparam : params[i]? = some param) :
    ∃ v, (param.name, v) ∈ added ∧
      (param.isVariadic = false → arguments[i]? = some v) ∧
      (param.isVariadic = true → v = Value.join (arguments.drop i)) := by
  induction h generalizing i with
  | nil arguments => simp at hparam
  | @positional first params rest added v hfirst h ih =>
      cases i with
      | zero =>
          obtain rfl : first = param := by simpa using hparam
          exact ⟨v, by simp, fun _ => rfl, fun hvariadic => by simp [hfirst] at hvariadic⟩
      | succ i =>
          obtain ⟨w, hmem, hpositional, hvariadic⟩ := ih (by simpa using hparam)
          exact ⟨w, List.mem_cons_of_mem _ hmem, hpositional, hvariadic⟩
  | @variadic last arguments hlast =>
      cases i with
      | zero =>
          obtain rfl : last = param := by simpa using hparam
          exact ⟨_, List.mem_cons_self, fun hpositional => by simp [hlast] at hpositional,
            fun _ => rfl⟩
      | succ i => simp at hparam

/-- Parameters with names that are new to the frame are bound behind those that are
there. -/
theorem adds_of_bindParams {params : List Param} {arguments : List Value} {frame bound : Scope}
    (h : bindParams frame params arguments = .ok bound)
    (hnames : (frame.bindings.map Prod.fst ++ params.map Param.name).Nodup)
    (hlast : ∀ param ∈ params.dropLast, param.isVariadic = false) :
    ∃ added, bound.bindings = frame.bindings ++ added ∧ Adds params arguments added := by
  induction params generalizing frame arguments with
  | nil =>
      obtain rfl : frame = bound := Except.ok.inj h
      exact ⟨[], (List.append_nil _).symm, .nil arguments⟩
  | cons param params ih =>
      have hfresh : param.name ∉ frame.bindings.map Prod.fst := fun hmem =>
        (List.nodup_append.1 hnames).2.2 _ hmem _ (by simp) rfl
      unfold bindParams at h
      by_cases hvariadic : param.isVariadic = true
      · rw [if_pos hvariadic] at h
        obtain rfl := Except.ok.inj h
        cases params with
        | nil => exact ⟨_, Scope.bindings_put_of_notMem hfresh, .variadic arguments hvariadic⟩
        | cons second later =>
            have hpositional := hlast param (by simp)
            simp [hpositional] at hvariadic
      · rw [if_neg hvariadic] at h
        cases arguments with
        | nil => cases h
        | cons v rest =>
            have hput : (frame.put param.name v).bindings =
                frame.bindings ++ [(param.name, v)] := Scope.bindings_put_of_notMem hfresh
            have hnames' : ((frame.put param.name v).bindings.map Prod.fst ++
                params.map Param.name).Nodup := by
              rw [hput]
              simpa using hnames
            have hlast' : ∀ later ∈ params.dropLast, later.isVariadic = false := by
              intro later hlater
              cases params with
              | nil => simp at hlater
              | cons second rest => exact hlast later (by simp [hlater])
            obtain ⟨added, hbound, hadds⟩ := ih h hnames' hlast'
            refine ⟨(param.name, v) :: added, ?_, .positional v (by simpa using hvariadic) hadds⟩
            rw [hbound, hput, List.append_assoc, List.singleton_append]

/-- A usual parameter list is bound as it should be. -/
theorem binds_of_bindParams {o : Overload H} {arguments : List Value} {frame : Scope}
    (haccepts : o.accepts arguments.length = true)
    (h : bindParams {} o.params arguments = .ok frame)
    (hnames : (o.params.map Param.name).Nodup)
    (hlast : ∀ param ∈ o.params.dropLast, param.isVariadic = false) :
    Binds o.params arguments frame := by
  obtain ⟨added, hbound, hadds⟩ := adds_of_bindParams h (by simpa using hnames) hlast
  have hadded : frame.bindings = added := hbound
  have hkeys : frame.bindings.map Prod.fst = o.params.map Param.name := by
    rw [hadded]
    exact hadds.names
  have hnodup : (frame.bindings.map Prod.fst).Nodup := by
    rw [hkeys]
    exact hnames
  have hget : ∀ (i : Nat) (param : Param), o.params[i]? = some param →
      ∃ v, frame.get? param.name = some v ∧
      (param.isVariadic = false → arguments[i]? = some v) ∧
      (param.isVariadic = true → v = Value.join (arguments.drop i)) := by
    intro i param hparam
    obtain ⟨v, hmem, hvalue⟩ := hadds.mem hparam
    exact ⟨v, lookup_of_mem hnodup (hadded ▸ hmem), hvalue⟩
  refine ⟨hkeys, ?_, ?_, length_of_accepts haccepts⟩
  · intro i param hparam hpositional
    obtain ⟨v, hv, hargument, -⟩ := hget i param hparam
    exact ⟨v, hargument hpositional, hv⟩
  · intro i param hparam hvariadic
    obtain ⟨v, hv, -, hjoin⟩ := hget i param hparam
    refine ⟨v, ?_, hv⟩
    rw [hjoin hvariadic]
    exact joinOf_join _

/-- The arguments of a call are bound safely, and none of them is lost.  An overload that
accepts the arguments binds its parameters, wherever variadic ones stand among them.  They
are declared in the frame of the call, on the stack of the callee, and the globals are
neither read nor changed: the frame is the same whatever they are.  The body then starts in
a fresh frame over that of the call.  If the names are distinct and no parameter but the
last is variadic, the frame binds exactly the parameters, the positional ones to their
arguments and a variadic one to the join of those that are left. -/
theorem binding_is_exact {o : Overload H} {arguments : List Value}
    (haccepts : o.accepts arguments.length = true) :
    ∃ frame, bindParams {} o.params arguments = .ok frame ∧
      (∀ stack : ScopeStack, declareParams stack.sibling.push o.params arguments =
        .ok { globals := stack.globals, frames := [frame] }) ∧
      (∀ (host : Host H) (fuel : Nat) (ctx : Context H) (loc place : Option Loc)
          (executions : List Node) (s : State), (s.callDepth : Int) < ctx.maxCallDepth →
        callScript (evaluate host (fuel + 1)) ctx loc o.params (.block executions place)
            arguments s =
          callOutcome s (evalStatements host (evaluate host fuel) ctx Value.truthy executions
            (bodyStart s frame))) ∧
      ((o.params.map Param.name).Nodup →
        (∀ param ∈ o.params.dropLast, param.isVariadic = false) →
        Binds o.params arguments frame) := by
  obtain ⟨frame, hframe⟩ := bindParams_of_accepts haccepts
  refine ⟨frame, hframe, ?_, ?_, binds_of_bindParams haccepts hframe⟩
  · intro stack
    show declareParams ⟨stack.globals, [{}]⟩ o.params arguments = _
    rw [declareParams_eq, hframe]
    rfl
  · intro host fuel ctx loc place executions s hdepth
    exact callScript_eq_body hframe hdepth fuel loc place executions

/-- Two parameters, the second of which takes two arguments. -/
theorem binding_is_exact_joined :
    let o : Overload Unit :=
      ⟨[⟨"a", false⟩, ⟨"rest", true⟩], .script (.block [] none), none⟩
    let arguments : List Value := [⟨"x", 3⟩, ⟨"y", 1⟩, ⟨"z", 2⟩]
    o.accepts arguments.length = true ∧
      ∃ frame, bindParams {} o.params arguments = .ok frame ∧
        frame.bindings.map Prod.fst = ["a", "rest"] ∧
        frame.get? "a" = some ⟨"x", 3⟩ ∧ frame.get? "rest" = some ⟨"y z", 2⟩ := by
  intro o arguments
  have haccepts : o.accepts arguments.length = true := by decide
  obtain ⟨frame, hframe, -, -, hbinds⟩ := binding_is_exact haccepts
  obtain ⟨hnames, hpositional, hvariadic, -⟩ := hbinds (by decide) (by decide)
  obtain ⟨v, hv, hget⟩ := hpositional 0 ⟨"a", false⟩ rfl rfl
  obtain ⟨w, hjoin, hrest⟩ := hvariadic 1 ⟨"rest", true⟩ rfl rfl
  obtain rfl : _ = v := Option.some.inj hv
  have hw : w = ⟨"y z", 2⟩ := by
    obtain ⟨text, status⟩ := w
    obtain rfl : text = "y z" := hjoin.text.trans (by decide)
    obtain rfl : status = 2 := hjoin.status ⟨"z", 2⟩ rfl
    rfl
  rw [hw] at hrest
  exact ⟨haccepts, frame, hframe, hnames, hget, hrest⟩

/-! ## Which parameters are bound -/

/-- The parameters that binding reaches: those up to the first variadic one. -/
def reached : List Param → List Param
  | [] => []
  | param :: params => if param.isVariadic then [param] else param :: reached params

theorem reached_isPrefix (params : List Param) : reached params <+: params := by
  induction params with
  | nil => exact List.prefix_refl _
  | cons param params ih =>
      unfold reached
      split
      · exact ⟨params, rfl⟩
      · exact List.cons_prefix_cons.2 ⟨rfl, ih⟩

/-- All parameters are reached exactly if none but the last is variadic. -/
theorem reached_eq_self_iff {params : List Param} :
    reached params = params ↔ ∀ param ∈ params.dropLast, param.isVariadic = false := by
  induction params with
  | nil => simp [reached]
  | cons param params ih =>
      unfold reached
      cases params with
      | nil => simp [reached]
      | cons second later =>
          rw [List.dropLast_cons_cons, List.forall_mem_cons, ← ih]
          cases param.isVariadic <;> simp

/-- Parameters with distinct names are all bound exactly if they are all reached. -/
theorem reached_eq_self_of_names {params : List Param} (hnames : (params.map Param.name).Nodup)
    (h : ∀ param ∈ params, param.name ∈ (reached params).map Param.name) :
    reached params = params := by
  have hsubset : params.map Param.name ⊆ (reached params).map Param.name := by
    intro name hname
    obtain ⟨param, hparam, rfl⟩ := List.mem_map.1 hname
    exact h param hparam
  have hlength := (hnames.subperm hsubset).length_le
  rw [List.length_map, List.length_map] at hlength
  exact (reached_isPrefix params).eq_of_length_le hlength

/-- The frame of a call binds the parameters that are reached, and no others. -/
theorem contains_bindParams {params : List Param} {arguments : List Value}
    {frame bound : Scope} (h : bindParams frame params arguments = .ok bound) (name : String) :
    bound.contains name = true ↔
      frame.contains name = true ∨ name ∈ (reached params).map Param.name := by
  induction params generalizing frame arguments with
  | nil =>
      obtain rfl : frame = bound := Except.ok.inj h
      simp [reached]
  | cons param params ih =>
      unfold bindParams at h
      unfold reached
      by_cases hvariadic : param.isVariadic = true
      · rw [if_pos hvariadic] at h ⊢
        obtain rfl := Except.ok.inj h
        simp [Scope.contains_put, or_comm]
      · rw [if_neg hvariadic] at h ⊢
        cases arguments with
        | nil => cases h
        | cons v rest =>
            rw [ih h, Scope.contains_put, List.map_cons, List.mem_cons]
            simp [or_assoc, or_left_comm]

/-- Which parameters of a function are bound when its body starts.  A function that is
defined in an accepted source, and is called with a number of arguments that it accepts,
starts its body in a fresh frame over the frame of the call, which binds the parameters up
to the first variadic one and no others.  So all of them are bound if no parameter but the
last is variadic, and if their names are distinct, only then. -/
theorem bound_parameters_of_definition {source : String} {p : Program}
    (hparse : Program.parse source = .ok p) {f : Function} (hf : f ∈ p.functions)
    {arguments : List Value}
    (haccepts : (Registry.ofFunction f : Overload H).accepts arguments.length = true) :
    ∃ frame executions place, f.body = .block executions place ∧
      (∀ (host : Host H) (fuel : Nat) (ctx : Context H) (loc : Option Loc) (s : State),
        (s.callDepth : Int) < ctx.maxCallDepth →
        callScript (evaluate host (fuel + 1)) ctx loc f.params f.body arguments s =
          callOutcome s (evalStatements host (evaluate host fuel) ctx Value.truthy executions
            (bodyStart s frame))) ∧
      (∀ name, frame.contains name = true ↔ name ∈ (reached f.params).map Param.name) ∧
      ((∀ param ∈ f.params.dropLast, param.isVariadic = false) →
        ∀ param ∈ f.params, frame.contains param.name = true) ∧
      ((f.params.map Param.name).Nodup →
        (∀ param ∈ f.params, frame.contains param.name = true) →
        ∀ param ∈ f.params.dropLast, param.isVariadic = false) := by
  obtain ⟨executions, place, hbody, -⟩ := ((Program.forms_of_parse hparse).functions f hf).body
  obtain ⟨frame, hframe⟩ : ∃ frame, bindParams {} f.params arguments = .ok frame :=
    bindParams_of_accepts haccepts
  have hbound : ∀ name, frame.contains name = true ↔
      name ∈ (reached f.params).map Param.name := by
    intro name
    have hempty : ({} : Scope).contains name = false := rfl
    simp [contains_bindParams hframe, hempty]
  refine ⟨frame, executions, place, hbody, ?_, hbound, ?_, ?_⟩
  · intro host fuel ctx loc s hdepth
    rw [hbody]
    exact callScript_eq_body hframe hdepth fuel loc place executions
  · intro hlast param hparam
    rw [hbound, reached_eq_self_iff.2 hlast]
    exact List.mem_map.2 ⟨param, hparam, rfl⟩
  · intro hnames hall
    apply reached_eq_self_iff.1
    apply reached_eq_self_of_names hnames
    intro param hparam
    exact (hbound _).1 (hall param hparam)

theorem exists_definition (source : String) (params : List Param)
    (h : ((Program.parse source).toOption.map fun p => p.functions.map FunctionOf.params) =
      some [params]) :
    ∃ p f, Program.parse source = .ok p ∧ f ∈ p.functions ∧ f.params = params := by
  cases hparse : Program.parse source with
  | error e => simp [hparse, Except.toOption] at h
  | ok p =>
      have hparams : p.functions.map FunctionOf.params = [params] := by
        simpa [hparse, Except.toOption] using h
      obtain ⟨f, hf, hparam⟩ := List.mem_map.1
        (show params ∈ p.functions.map FunctionOf.params by simp [hparams])
      exact ⟨p, f, rfl, hf, hparam⟩

/-- A variadic parameter in the last place is bound also if nothing is left for it. -/
theorem bound_parameters_of_definition_last :
    ∃ p f frame executions place,
      Program.parse "fn f(a,%b)\x7b\x7d" = .ok p ∧ f ∈ p.functions ∧
      (Registry.ofFunction f : Overload Unit).accepts 1 = true ∧
      f.body = .block executions place ∧
      (∀ (host : Host Unit) (fuel : Nat) (ctx : Context Unit) (loc : Option Loc) (s : State),
        (s.callDepth : Int) < ctx.maxCallDepth →
        callScript (evaluate host (fuel + 1)) ctx loc f.params f.body [⟨"1", 0⟩] s =
          callOutcome s (evalStatements host (evaluate host fuel) ctx Value.truthy executions
            (bodyStart s frame))) ∧
      frame.contains "a" = true ∧ frame.contains "b" = true := by
  obtain ⟨p, f, hparse, hf, hparams⟩ :=
    exists_definition "fn f(a,%b)\x7b\x7d" [⟨"a", false⟩, ⟨"b", true⟩] (by decide +kernel)
  have haccepts : (Registry.ofFunction f : Overload Unit).accepts
      [(⟨"1", 0⟩ : Value)].length = true := by
    obtain ⟨name, params, body, source, loc⟩ := f
    subst hparams
    rfl
  obtain ⟨frame, executions, place, hbody, hcall, -, hall, -⟩ :=
    bound_parameters_of_definition hparse hf haccepts
  rw [hparams] at hall
  have hbound := hall (by decide)
  exact ⟨p, f, frame, executions, place, hparse, hf, haccepts, hbody, hcall,
    hbound ⟨"a", false⟩ (by simp), hbound ⟨"b", true⟩ (by simp)⟩

/-- A parameter behind a variadic one is not bound when the body starts. -/
theorem parameter_behind_variadic_unbound :
    ∃ p f frame executions place,
      Program.parse "fn f(%a,b)\x7bx=$b\x7d" = .ok p ∧ f ∈ p.functions ∧
      (Registry.ofFunction f : Overload Unit).accepts 1 = true ∧
      f.body = .block executions place ∧
      (∀ (host : Host Unit) (fuel : Nat) (ctx : Context Unit) (loc : Option Loc) (s : State),
        (s.callDepth : Int) < ctx.maxCallDepth →
        callScript (evaluate host (fuel + 1)) ctx loc f.params f.body [⟨"1", 0⟩] s =
          callOutcome s (evalStatements host (evaluate host fuel) ctx Value.truthy executions
            (bodyStart s frame))) ∧
      ∃ param ∈ f.params, frame.contains param.name = false := by
  obtain ⟨p, f, hparse, hf, hparams⟩ :=
    exists_definition "fn f(%a,b)\x7bx=$b\x7d" [⟨"a", true⟩, ⟨"b", false⟩] (by decide +kernel)
  obtain ⟨executions, place, hbody, -⟩ := ((Program.forms_of_parse hparse).functions f hf).body
  have haccepts : (Registry.ofFunction f : Overload Unit).accepts 1 = true := by
    obtain ⟨name, params, body, source, loc⟩ := f
    subst hparams
    rfl
  have hframe : bindParams {} f.params [⟨"1", 0⟩] = .ok ⟨[("a", Value.join [⟨"1", 0⟩])]⟩ := by
    rw [hparams]
    rfl
  refine ⟨p, f, ⟨[("a", Value.join [⟨"1", 0⟩])]⟩, executions, place, hparse, hf, haccepts, hbody,
    ?_, ⟨"b", false⟩, ?_, rfl⟩
  · intro host fuel ctx loc s hdepth
    rw [hbody]
    exact callScript_eq_body hframe hdepth fuel loc place executions
  · simp [hparams]

end Evaluator

end TextShell
