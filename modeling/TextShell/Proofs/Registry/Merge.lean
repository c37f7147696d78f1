import TextShell.Proofs.Eval.Discipline
import TextShell.Proofs.Registry

/-!
# Registries that can be copied

A session of its own gets the functions of its caller by merging the caller's
registry into an empty one.  Merging registers one overload after the other,
and each may be rejected, or drive out one that was registered before it.  That
neither happens rests on the order in which a registry keeps its overloads: in
the list of a name no two collide, and no script stands behind a host overload.

Every way of registering keeps it so, also one that is rejected halfway.  A
registry that is reached in any such way is `Tidy`, and a tidy registry is
copied exactly.

## Main results

* `Tidy.register` — one registration keeps a registry tidy.
* `Reachable.tidy` — every registry that can be reached is tidy.
* `registerAll_entries` — registering what a tidy registry holds rebuilds it.
* `merge_empty_copies` — merging into an empty registry is an exact copy, so a
  source is evaluated with exactly the functions of its caller.
-/

namespace TextShell

namespace Overload

variable {H : Type}

/-- The overloads of a name, as a registry keeps them. -/
structure Settled (os : List (Overload H)) : Prop where
  nonempty : os ≠ []
  apart : os.Pairwise fun o later => o.collides later = false
  hostsLast : HostsLast os

/-- A new overload behind those that it does not collide with.  If it is a
script, there is no host overload among them. -/
theorem settled_concat {os : List (Overload H)} {new : Overload H}
    (hapart : os.Pairwise fun o later => o.collides later = false)
    (hlast : HostsLast os)
    (hnew : new.isHost = false → os.any isHost = false) :
    Settled (os.filter (fun o => !o.collides new) ++ [new]) := by
  refine ⟨by simp, ?_, ?_⟩
  · refine List.pairwise_append.2
      ⟨hapart.filter _, List.pairwise_singleton _ _, fun o ho later hlater => ?_⟩
    obtain rfl : later = new := by simpa using hlater
    simpa using (List.mem_filter.1 ho).2
  · refine List.pairwise_append.2
      ⟨hlast.filter _, List.pairwise_singleton _ _, fun o ho later hlater hhost => ?_⟩
    obtain rfl : later = new := by simpa using hlater
    by_contra hscript
    have hnone := hnew (by simpa using hscript)
    exact List.any_eq_false.1 hnone o (List.mem_filter.1 ho).1 hhost

end Overload

namespace Registry

variable {H : Type}

/-! ## Where an overload list is put -/

theorem map_fst_putOverloads (name : String) (os : List (Overload H))
    (functions : List (String × List (Overload H))) :
    (putOverloads name os functions).map Prod.fst =
      if name ∈ functions.map Prod.fst then functions.map Prod.fst
      else functions.map Prod.fst ++ [name] := by
  induction functions with
  | nil => simp [putOverloads]
  | cons entry rest ih =>
      obtain ⟨key, held⟩ := entry
      by_cases hkey : name = key
      · simp [putOverloads, hkey]
      · simp only [putOverloads, beq_iff_eq, hkey, if_false, List.map_cons, ih,
          List.mem_cons, false_or]
        split <;> rfl

theorem mem_putOverloads {name : String} {os : List (Overload H)}
    {functions : List (String × List (Overload H))}
    {entry : String × List (Overload H)}
    (h : entry ∈ putOverloads name os functions) :
    entry = (name, os) ∨ entry ∈ functions :=
  mem_put (putOverloads name os) rfl (fun _ _ _ => rfl) h

/-- Behind the functions of other names, a list is put as if it were alone. -/
theorem putOverloads_append {name : String}
    {done : List (String × List (Overload H))}
    (hname : name ∉ done.map Prod.fst) (os : List (Overload H))
    (functions : List (String × List (Overload H))) :
    putOverloads name os (done ++ functions) =
      done ++ putOverloads name os functions := by
  induction done with
  | nil => rfl
  | cons entry rest ih =>
      obtain ⟨key, held⟩ := entry
      obtain ⟨hkey, hrest⟩ : name ≠ key ∧ name ∉ rest.map Prod.fst := by
        simpa using hname
      simp only [List.cons_append, putOverloads, beq_iff_eq, hkey, if_false,
        ih hrest]

theorem lookup_append_of_notMem {name : String}
    {done : List (String × List (Overload H))}
    (hname : name ∉ done.map Prod.fst)
    (functions : List (String × List (Overload H))) :
    (done ++ functions).lookup name = functions.lookup name := by
  have hnone : done.lookup name = none := by
    refine List.lookup_eq_none_iff.2 fun entry hentry => ?_
    exact bne_iff_ne.2 fun heq => hname (List.mem_map.2 ⟨entry, hentry, heq.symm⟩)
  rw [List.lookup_append, hnone, Option.none_or]

theorem mem_of_overloads? {r : Registry H} {name : String} {os : List (Overload H)}
    (h : r.overloads? name = some os) : (name, os) ∈ r.functions := by
  obtain ⟨before, behind, hfunctions, -⟩ := List.lookup_eq_some_iff.1 h
  simp [hfunctions]

/-- What a call resolves to is held under its name, and takes the arguments. -/
theorem exists_overloads_of_resolve {r : Registry H} {name : String} {count : Int}
    {o : Overload H} (h : r.resolve name count = .ok o) :
    ∃ os, (name, os) ∈ r.functions ∧ o ∈ os ∧ o.accepts count = true := by
  unfold resolve at h
  split at h
  · cases h
  · cases h
  · next os _ hfound =>
    split at h
    · next o' hfind =>
      obtain rfl := Except.ok.inj h
      have hmem : o' ∈ os := List.mem_of_find?_eq_some hfind
      have haccepts : o'.accepts count = true := by simpa using List.find?_some hfind
      exact ⟨os, mem_of_overloads? hfound, hmem, haccepts⟩
    · cases h

theorem mem_of_resolve {r : Registry H} {name : String} {count : Int}
    {o : Overload H} (h : r.resolve name count = .ok o) :
    (∃ entry ∈ r.functions, o ∈ entry.2) ∧ o.accepts count = true := by
  obtain ⟨os, hentry, hmem, haccepts⟩ := exists_overloads_of_resolve h
  exact ⟨⟨(name, os), hentry, hmem⟩, haccepts⟩

/-- What is true of every overload that is held, and of a new one, is true behind its
registration. -/
theorem forall_register {P : String → Overload H → Prop} {r next : Registry H}
    {name message : String} {new : Overload H}
    (h : ∀ entry ∈ r.functions, ∀ o ∈ entry.2, P entry.1 o) (hnew : P name new)
    (hnext : r.register name new = .ok (next, message)) :
    ∀ entry ∈ next.functions, ∀ o ∈ entry.2, P entry.1 o := by
  rcases register_cases r name new with ⟨-, -, hrejected⟩ | ⟨-, message', haccepted⟩
  · rw [hrejected] at hnext
    cases hnext
  · rw [haccepted] at hnext
    cases hnext
    intro entry hentry o ho
    rcases mem_putOverloads hentry with rfl | hold
    · rcases List.mem_append.1 ho with hkept | hlast
      · have hheld := (List.mem_filter.1 hkept).1
        cases hfound : r.overloads? name with
        | none =>
            rw [hfound] at hheld
            cases hheld
        | some os =>
            rw [hfound] at hheld
            exact h (name, os) (mem_of_overloads? hfound) o hheld
      · obtain rfl := List.mem_singleton.1 hlast
        exact hnew
    · exact h entry hold o ho

/-! ## Tidy registries -/

/-- Each name stands once, with overloads that are settled. -/
structure Tidy (r : Registry H) : Prop where
  nodup : (r.functions.map Prod.fst).Nodup
  settled : ∀ entry ∈ r.functions, Overload.Settled entry.2

/-- The overloads of a name, of which there may be none. -/
theorem Tidy.overloads {r : Registry H} (h : r.Tidy) (name : String) :
    ((r.overloads? name).getD []).Pairwise
        (fun o later => o.collides later = false) ∧
      Overload.HostsLast ((r.overloads? name).getD []) := by
  cases hfound : r.overloads? name with
  | none => exact ⟨.nil, .nil⟩
  | some os =>
      have hos : Overload.Settled os := h.settled (name, os) (mem_of_overloads? hfound)
      exact ⟨hos.apart, hos.hostsLast⟩

/-- Under a name of a tidy registry the overloads are found that stand with it. -/
theorem Tidy.overloads?_of_mem {r : Registry H} (h : r.Tidy) {name : String}
    {os : List (Overload H)} (hmem : (name, os) ∈ r.functions) :
    r.overloads? name = some os :=
  lookup_of_mem h.nodup hmem

theorem tidy_empty : ({} : Registry H).Tidy := ⟨.nil, by simp⟩

/-- One registration keeps a registry tidy. -/
theorem Tidy.register {r next : Registry H} (h : r.Tidy) {name message : String}
    {new : Overload H} (hnext : r.register name new = .ok (next, message)) :
    next.Tidy := by
  rcases register_cases r name new with
    ⟨-, -, hrejected⟩ | ⟨hscript, message', haccepted⟩
  · rw [hrejected] at hnext
    simp at hnext
  · rw [haccepted] at hnext
    obtain ⟨rfl, -⟩ : _ = next ∧ _ := by simpa using hnext
    obtain ⟨hapart, hlast⟩ := h.overloads name
    constructor
    · rw [map_fst_putOverloads]
      split
      · exact h.nodup
      · next hfresh =>
        rw [← List.concat_eq_append]
        exact h.nodup.concat hfresh
    · intro entry hentry
      rcases mem_putOverloads hentry with rfl | hentry
      · exact Overload.settled_concat hapart hlast hscript
      · exact h.settled entry hentry

/-- What every registration keeps is kept by registering one overload after the
other, as far as that goes. -/
theorem registerAll_induction {P : Registry H → Prop}
    {entries : List (String × Overload H)}
    (step : ∀ entry ∈ entries, ∀ r next message, P r →
      r.register entry.1 entry.2 = .ok (next, message) → P next)
    {r : Registry H} (h : P r) : P (r.registerAll entries).1 := by
  induction entries generalizing r with
  | nil => exact h
  | cons entry rest ih =>
      obtain ⟨hfirst, hrest⟩ := List.forall_mem_cons.1 step
      unfold Registry.registerAll
      cases hnext : r.register entry.1 entry.2 with
      | error rejected => exact h
      | ok answer => exact ih hrest (hfirst r _ _ h hnext)

theorem merge_fst (r other : Registry H) :
    (r.merge other).1 = (r.registerAll other.entries).1 := by
  unfold merge
  dsimp only
  generalize r.registerAll other.entries = result
  obtain ⟨merged, _ | rejected⟩ := result <;> rfl

theorem addScripts_cons (r : Registry H) (f : Function) (rest : List Function) :
    r.addScripts (f :: rest) = (r.addScript f).bind fun first =>
      (first.1.addScripts rest).bind fun last =>
        .ok (last.1, first.2 :: last.2) := rfl

/-- What every registration keeps is kept by definitions that are registered
together. -/
theorem addScripts_induction {P : Registry H → Prop} {functions : List Function}
    (step : ∀ f ∈ functions, ∀ r next message, P r →
      r.register f.name (ofFunction f) = .ok (next, message) → P next)
    {r next : Registry H} {messages : List String} (h : P r)
    (hnext : r.addScripts functions = .ok (next, messages)) : P next := by
  induction functions generalizing r messages with
  | nil =>
      obtain ⟨rfl, -⟩ : r = next ∧ _ := by simpa [Registry.addScripts] using hnext
      exact h
  | cons f rest ih =>
      obtain ⟨hstep, hrest⟩ := List.forall_mem_cons.1 step
      rw [addScripts_cons] at hnext
      cases hfirst : r.addScript f with
      | error rejected => simp [hfirst, Except.bind] at hnext
      | ok first =>
          rw [hfirst] at hnext
          cases hlast : first.1.addScripts rest with
          | error rejected => simp [hlast, Except.bind] at hnext
          | ok last =>
              obtain ⟨rfl, -⟩ : last.1 = next ∧ _ := by
                simpa [hlast, Except.bind] using hnext
              exact ih hrest (hstep r _ _ h hfirst) hlast

/-- A rejection of definitions is that of one of them. -/
theorem addScripts_rejected {r : Registry H} {functions : List Function}
    {rejected : OverloadRejected}
    (h : r.addScripts functions = .error rejected) :
    ∃ f ∈ functions, rejected = ⟨f.name⟩ := by
  induction functions generalizing r with
  | nil => simp [Registry.addScripts] at h
  | cons f rest ih =>
      rw [addScripts_cons] at h
      rcases register_cases r f.name (ofFunction f) with
        ⟨-, -, hrejected⟩ | ⟨-, message, haccepted⟩
      · have hf : r.addScript f = .error ⟨f.name⟩ := hrejected
        rw [hf] at h
        exact ⟨f, List.mem_cons_self, by simpa [Except.bind] using h.symm⟩
      · have hf : r.addScript f = .ok (_, message) := haccepted
        rw [hf] at h
        simp only [Except.bind] at h
        split at h
        · next hrest =>
          obtain rfl : _ = rejected := by simpa using h
          obtain ⟨g, hg, hname⟩ := ih hrest
          exact ⟨g, List.mem_cons_of_mem _ hg, hname⟩
        · simp at h

/-! ## Registries that can be reached -/

/-- The registry behind an attempt, which is as it was if the attempt is
rejected. -/
def afterAttempt (r : Registry H) (a : Attempt H) : Registry H :=
  match a.run r with
  | .ok (next, _) => next
  | .error _ => r

/-- The registry behind definitions, which is as it was if one is rejected. -/
def afterScripts (r : Registry H) (functions : List Function) : Registry H :=
  match r.addScripts functions with
  | .ok (next, _) => next
  | .error _ => r

/-- The registries that come about from empty ones, whether or not something is
rejected on the way. -/
inductive Reachable : Registry H → Prop
  | empty : Reachable {}
  | attempt {r : Registry H} (h : Reachable r) (a : Attempt H) :
      Reachable (r.afterAttempt a)
  | addScripts {r : Registry H} (h : Reachable r) (functions : List Function) :
      Reachable (r.afterScripts functions)
  | merge {r other : Registry H} (h : Reachable r) (hother : Reachable other) :
      Reachable (r.merge other).1

theorem Reachable.of_addScripts {r next : Registry H} (h : Reachable r)
    {functions : List Function} {messages : List String}
    (hnext : r.addScripts functions = .ok (next, messages)) :
    Reachable next := by
  have hafter : r.afterScripts functions = next := by
    simp only [afterScripts, hnext]
  exact hafter ▸ h.addScripts functions

/-- Every registry that can be reached is tidy. -/
theorem Reachable.tidy {r : Registry H} (h : Reachable r) : r.Tidy := by
  induction h with
  | empty => exact tidy_empty
  | @attempt r _ a ih =>
      unfold afterAttempt
      split
      · next hrun => exact ih.register ((a.run_eq r).symm.trans hrun)
      · exact ih
  | @addScripts r _ functions ih =>
      unfold afterScripts
      split
      · next hnext =>
        exact addScripts_induction (fun _ _ _ _ _ h hstep => h.register hstep) ih hnext
      · exact ih
  | @merge r other _ _ ih _ =>
      rw [merge_fst]
      exact registerAll_induction (fun _ _ _ _ _ h hstep => h.register hstep) ih

/-! ## Exact copies -/

/-- The entries of one name. -/
def entriesOf (name : String) (os : List (Overload H)) :
    List (String × Overload H) :=
  os.map fun o => (name, o)

theorem entries_cons (name : String) (os : List (Overload H))
    (rest : List (String × List (Overload H))) :
    entries ⟨(name, os) :: rest⟩ = entriesOf name os ++ entries ⟨rest⟩ := rfl

/-- An overload that collides with none before it, and comes behind no host
overload if it is a script, is registered at the end. -/
theorem register_settled {r : Registry H} {name : String} {new : Overload H}
    (h : Overload.Settled ((r.overloads? name).getD [] ++ [new])) :
    ∃ message, r.register name new = .ok (⟨putOverloads name
      ((r.overloads? name).getD [] ++ [new]) r.functions⟩, message) := by
  have hapart := (List.pairwise_append.1 h.apart).2.2
  have hlast := (List.pairwise_append.1 h.hostsLast).2.2
  rcases register_cases r name new with
    ⟨hscript, hany, -⟩ | ⟨-, message, haccepted⟩
  · obtain ⟨o, ho, hhost⟩ := List.any_eq_true.1 hany
    have hnew := hlast o ho new (by simp) hhost
    exact absurd hnew (by simp [hscript])
  · refine ⟨message, ?_⟩
    rw [haccepted, List.filter_eq_self.2]
    intro o ho
    simp [hapart o ho new (by simp)]

/-- What is held of the overloads of a name, while they are registered one
after the other. -/
def holding (name : String) : List (Overload H) → List (String × List (Overload H))
  | [] => []
  | o :: os => [(name, o :: os)]

theorem lookup_holding (name : String) (os : List (Overload H)) :
    ((holding name os).lookup name).getD [] = os := by
  cases os <;> simp [holding]

theorem holding_eq {os : List (Overload H)} (name : String) (h : os ≠ []) :
    holding name os = [(name, os)] := by
  cases os with
  | nil => exact absurd rfl h
  | cons o os => rfl

theorem putOverloads_holding (name : String) (held : List (Overload H))
    {os : List (Overload H)} (h : os ≠ []) :
    putOverloads name os (holding name held) = holding name os := by
  rw [holding_eq name h]
  cases held <;> simp [holding, putOverloads]

/-- The overloads of a name are registered in order, behind those that are
there. -/
theorem registerAll_entriesOf {done : List (String × List (Overload H))}
    {name : String} (hname : name ∉ done.map Prod.fst)
    (held os : List (Overload H)) (rest : List (String × Overload H))
    (h : Overload.Settled (held ++ os)) :
    registerAll ⟨done ++ holding name held⟩ (entriesOf name os ++ rest) =
      registerAll ⟨done ++ holding name (held ++ os)⟩ rest := by
  induction os generalizing held with
  | nil => simp [entriesOf]
  | cons o os ih =>
      have hheld : ((overloads? ⟨done ++ holding name held⟩ name).getD []) =
          held := by
        rw [overloads?, lookup_append_of_notMem hname, lookup_holding]
      have hsub : (held ++ [o]).Sublist (held ++ o :: os) := by simp
      have hfirst : Overload.Settled
          ((overloads? ⟨done ++ holding name held⟩ name).getD [] ++ [o]) := by
        rw [hheld]
        exact ⟨by simp, h.apart.sublist hsub, h.hostsLast.sublist hsub⟩
      obtain ⟨message, hregister⟩ := register_settled hfirst
      rw [hheld, putOverloads_append hname,
        putOverloads_holding name held (by simp)] at hregister
      have hstep := ih (held ++ [o]) (by simpa using h)
      simp only [entriesOf, List.map_cons, List.cons_append, Registry.registerAll,
        hregister]
      simpa [entriesOf] using hstep

/-- Registering what a tidy registry holds, behind functions of other names,
rebuilds it there. -/
theorem registerAll_entries {done rest : List (String × List (Overload H))}
    (h : Tidy ⟨done ++ rest⟩) :
    registerAll ⟨done⟩ (entries ⟨rest⟩) = (⟨done ++ rest⟩, none) := by
  induction rest generalizing done with
  | nil => simp [entries, Registry.registerAll]
  | cons entry rest ih =>
      obtain ⟨name, os⟩ := entry
      have hsettled : Overload.Settled os := h.settled (name, os) (by simp)
      have hname : name ∉ done.map Prod.fst := by
        have hnodup := h.nodup
        simp only [List.map_append, List.map_cons] at hnodup
        exact fun hmem => (List.nodup_append.1 hnodup).2.2 name hmem name (by simp) rfl
      have hwhole : done ++ [(name, os)] ++ rest = done ++ (name, os) :: rest := by
        simp
      have hfirst := registerAll_entriesOf hname [] os (entries ⟨rest⟩) hsettled
      rw [show holding name ([] : List (Overload H)) = [] from rfl,
        List.append_nil, List.nil_append, holding_eq name hsettled.nonempty]
        at hfirst
      rw [entries_cons, hfirst, ih (by rw [hwhole]; exact h), hwhole]

/-- A tidy registry is copied by merging it into an empty one. -/
theorem Tidy.merge_empty {r : Registry H} (h : r.Tidy) :
    ({} : Registry H).merge r =
      (r, .ok ("Registered " ++ toString r.entries.length ++ " functions")) := by
  have hall := registerAll_entries (show Tidy ⟨[] ++ r.functions⟩ from h)
  change ({} : Registry H).registerAll r.entries = (r, none) at hall
  unfold merge
  dsimp only
  rw [hall]

end Registry

namespace Evaluator

variable {H : Type}

/-- A source in a session of its own that has the functions of `registry`. -/
def sourceWith (eval : Context H → Task → Run Signal) (registry : Registry H)
    (source : String) : Run Signal :=
  match Program.parse source with
  | .error e => pure (.append (Value.falsy ("SyntaxError: " ++ e.message)))
  | .ok program =>
    match registry.addScripts program.functions with
    | .error rejected => pure (.append (Value.falsy rejected.describe))
    | .ok (extended, messages) => do
      noteAll (messages.map ("[runtime] " ++ ·))
      let signal ← Run.apart
        (eval ⟨extended, standardCallDepth⟩ (.statements program.executions))
      match topLevel signal with
      | .ok v => pure (.append v)
      | .error failure => pure (.append (Value.falsy failure.error.describe))

/-- With a registry that is copied exactly, a source is evaluated with the
functions of its caller. -/
theorem evalSource_eq (eval : Context H → Task → Run Signal) {r : Registry H}
    (h : r.Tidy) (maxCallDepth : Int) (source : String) :
    evalSource eval ⟨r, maxCallDepth⟩ source = (do
      Run.note ("[runtime] Registered " ++ toString r.entries.length ++
        " functions")
      sourceWith eval r source) := by
  unfold evalSource
  rw [h.merge_empty]
  rfl

end Evaluator

namespace Registry

variable {H : Type}

/-- Merging into an empty registry is an exact copy.  It is never rejected, and
gives the same names in the same order, each with the same overloads in the
same order; so resolution is the same, and a source that is evaluated by a
function starts out with exactly the functions of its caller.  What is rejected
there is then a definition in that source.  With its definitions the registry
can be reached again, so all of this holds of sources inside it as well. -/
theorem merge_empty_copies {r : Registry H} (h : Reachable r) :
    ({} : Registry H).merge r =
      (r, .ok ("Registered " ++ toString r.entries.length ++ " functions")) ∧
    (∀ name count,
      (({} : Registry H).merge r).1.resolve name count = r.resolve name count) ∧
    (∀ (eval : Context H → Task → Run Signal) (maxCallDepth : Int)
        (source : String),
      Evaluator.evalSource eval ⟨r, maxCallDepth⟩ source = (do
        Run.note ("[runtime] Registered " ++ toString r.entries.length ++
          " functions")
        Evaluator.sourceWith eval r source)) ∧
    (∀ functions rejected, r.addScripts functions = .error rejected →
      ∃ f ∈ functions, rejected = ⟨f.name⟩) ∧
    ∀ functions extended messages,
      r.addScripts functions = .ok (extended, messages) → Reachable extended := by
  have hcopy := h.tidy.merge_empty
  refine ⟨hcopy, fun name count => ?_, fun eval maxCallDepth source => ?_,
    fun functions rejected => addScripts_rejected,
    fun functions extended messages => h.of_addScripts⟩
  · rw [hcopy]
  · exact Evaluator.evalSource_eq eval h.tidy maxCallDepth source

/-- A name with a script and a host overload, a list of definitions of which
one is rejected, and a merge that is rejected halfway. -/
theorem merge_empty_copies_mixed :
    let f (params : List Param) : Function :=
      ⟨"f", params, .block [] none, some "", none⟩
    let mixed : Registry Unit :=
      (afterAttempt {} (.addScript (f [⟨"a", false⟩]))).afterAttempt
        (.addHost "f" [] ())
    let r := (mixed.afterScripts
      [⟨"g", [], .block [] none, some "", none⟩, f []]).merge mixed
    Reachable r.1 ∧ r.2 = .error ⟨"f"⟩ ∧
      ({} : Registry Unit).merge r.1 =
        (r.1, .ok ("Registered " ++ toString 2 ++ " functions")) ∧
      r.1.addScripts [f []] = .error ⟨"f"⟩ ∧
      ∃ g ∈ [f []], (⟨"f"⟩ : OverloadRejected) = ⟨g.name⟩ := by
  intro f mixed r
  have hmixed : Reachable mixed := (Reachable.empty.attempt _).attempt _
  have hr : Reachable r.1 := (hmixed.addScripts _).merge hmixed
  have hlength : r.1.entries.length = 2 := by decide +kernel
  have hlate : r.1.addScripts [f []] = .error ⟨"f"⟩ := by cbv
  obtain ⟨hcopy, -, -, hrejected, -⟩ := merge_empty_copies hr
  rw [hlength] at hcopy
  exact ⟨hr, rfl, hcopy, hlate, hrejected _ _ hlate⟩

end Registry

end TextShell
