import TextShell.Proofs.Registry.Absorption

/-!
# Definitions that are registered together

Definitions are registered one after the other, and by the time that one of them is
rejected those before it have driven out overloads and brought names of their own.  The
verdict does not depend on that: a script neither brings a host overload nor drives one
out, since it is rejected where there is one.  So what decides is the registry before the
first definition (`hasHost_absorb_script`).

That a rejected list leaves no trace is a matter of how a registry lies in memory.  Its
table is changed in place, and what is kept of the old one is a copy of the table only,
which shares the overload lists with the new one.  This is enough because a list is never
changed: registration makes a new list and enters its place in the table.  `Memory` has
tables and lists apart, so that this is something to prove.

## Main results

* `addScripts_eq` — definitions together, from the registration one by one.
* `registerAll_snd_eq_find?` — what is rejected can be told in advance.
* `Memory.view_registerAll` — registration in memory is registration.
* `Memory.view_addScripts` — the copy of the table restores the registry.
* `addScripts_all_or_nothing` — the whole account.
-/

namespace TextShell

namespace Registry

variable {H : Type}

/-! ## One by one and together -/

/-- The overloads of definitions, with their names. -/
def definitions (functions : List Function) : List (String × Overload H) :=
  functions.map fun f => (f.name, ofFunction f)

/-- What is kept of overloads that were registered one by one: nothing, if one was
rejected. -/
def allOrNothing : Registry H × Option OverloadRejected → Except OverloadRejected (Registry H)
  | (next, none) => .ok next
  | (_, some rejected) => .error rejected

/-- Definitions are registered together by registering them one by one. -/
theorem addScripts_eq (r : Registry H) (functions : List Function) :
    (r.addScripts functions).map Prod.fst =
      allOrNothing (r.registerAll (definitions functions)) := by
  induction functions generalizing r with
  | nil => rfl
  | cons f rest ih =>
      show _ = allOrNothing (r.registerAll ((f.name, ofFunction f) :: definitions rest))
      rw [addScripts_cons, addScript, Registry.registerAll]
      cases r.register f.name (ofFunction f) with
      | error rejected => rfl
      | ok first =>
          show _ = allOrNothing (first.1.registerAll (definitions rest))
          rw [← ih first.1]
          dsimp only [Except.bind]
          cases first.1.addScripts rest <;> rfl

theorem addScripts_eq_error_iff {r : Registry H} {functions : List Function}
    {rejected : OverloadRejected} :
    r.addScripts functions = .error rejected ↔
      (r.registerAll (definitions functions)).2 = some rejected := by
  have heq := r.addScripts_eq functions
  generalize r.registerAll (definitions functions) = result at heq ⊢
  obtain ⟨next, _ | other⟩ := result <;> cases hadd : r.addScripts functions <;>
    simp_all [Except.map, allOrNothing]

/-- Definitions that are registered one by one without a rejection are registered
together. -/
theorem addScripts_of_registerAll {r next : Registry H} {functions : List Function}
    (h : r.registerAll (definitions functions) = (next, none)) :
    ∃ messages, r.addScripts functions = .ok (next, messages) := by
  have heq := r.addScripts_eq functions
  rw [h] at heq
  cases hadd : r.addScripts functions with
  | error rejected =>
      rw [hadd] at heq
      cases heq
  | ok answer =>
      rw [hadd] at heq
      obtain rfl : answer.1 = next := Except.ok.inj heq
      exact ⟨answer.2, rfl⟩

/-! ## The verdict -/

/-- Scripts one by one are rejected at the first whose name has a host overload before
any of them is registered. -/
theorem registerAll_snd_eq_find? {entries : List (String × Overload H)}
    (hscripts : ∀ entry ∈ entries, entry.2.isHost = false) (r : Registry H) :
    (r.registerAll entries).2 =
      (entries.find? fun entry => r.hasHost entry.1).map fun entry => ⟨entry.1⟩ := by
  induction entries generalizing r with
  | nil => rfl
  | cons entry rest ih =>
      obtain ⟨hentry, hrest⟩ := List.forall_mem_cons.1 hscripts
      obtain ⟨name, new⟩ := entry
      rw [Registry.registerAll, List.find?_cons]
      cases hhost : r.hasHost name with
      | true =>
          rw [register_of_hasHost hentry hhost]
          rfl
      | false =>
          have hfree : new.isHost = false → r.hasHost name = false := fun _ => hhost
          obtain ⟨message, haccepted⟩ := register_absorbs hfree
          rw [haccepted]
          show (registerAll _ rest).2 = _
          rw [ih hrest]
          simp only [hasHost_absorb_script hentry hhost]

/-- Definitions together are rejected at the first whose name has a host overload. -/
theorem addScripts_eq_error_iff_split {r : Registry H} {functions : List Function}
    (hblocks : ∀ f ∈ functions, f.body.isBlock = true) (rejected : OverloadRejected) :
    r.addScripts functions = .error rejected ↔
      ∃ before f behind, functions = before ++ f :: behind ∧ r.hasHost f.name = true ∧
        (∀ g ∈ before, r.hasHost g.name = false) ∧ rejected = ⟨f.name⟩ := by
  have hscripts : ∀ entry ∈ (definitions functions : List (String × Overload H)),
      entry.2.isHost = false := by
    intro entry hentry
    obtain ⟨f, hf, rfl⟩ := List.mem_map.1 hentry
    simp [ofFunction, Overload.isHost, hblocks f hf]
  rw [addScripts_eq_error_iff, registerAll_snd_eq_find? hscripts, definitions,
    List.find?_map, Option.map_map, Option.map_eq_some_iff]
  constructor
  · rintro ⟨f, hfind, rfl⟩
    obtain ⟨hhost, before, behind, hsplit, hbefore⟩ := List.find?_eq_some_iff_append.1 hfind
    exact ⟨before, f, behind, hsplit, hhost, by simpa using hbefore, rfl⟩
  · rintro ⟨before, f, behind, hsplit, hhost, hbefore, rfl⟩
    refine ⟨f, List.find?_eq_some_iff_append.2 ⟨hhost, before, behind, hsplit, ?_⟩, rfl⟩
    simpa using hbefore

/-! ## Registries in memory -/

/-- A registry in memory: a table with the place of the overload list of each name, and the
lists at their places.  A copy of the table is a copy of the places. -/
structure Memory (H : Type) where
  table : List (String × Nat) := []
  lists : List (List (Overload H)) := []

namespace Memory

/-- The list at a place. -/
def listAt (s : Memory H) (place : Nat) : List (Overload H) := s.lists.getD place []

/-- The registry that lies in memory. -/
def view (s : Memory H) : Registry H := ⟨s.table.map fun entry => (entry.1, s.listAt entry.2)⟩

/-- Every place in the table is that of a list. -/
def Placed (s : Memory H) : Prop := ∀ entry ∈ s.table, entry.2 < s.lists.length

/-- The table with another place for a name. -/
def putPlace (name : String) (place : Nat) : List (String × Nat) → List (String × Nat)
  | [] => [(name, place)]
  | (key, held) :: rest =>
    if name == key then (name, place) :: rest else (key, held) :: putPlace name place rest

/-- Makes a list, and enters its place under a name. -/
def store (s : Memory H) (name : String) (os : List (Overload H)) : Memory H :=
  ⟨putPlace name s.lists.length s.table, s.lists ++ [os]⟩

/-- Registers an overload, in place. -/
def register (s : Memory H) (name : String) (new : Overload H) :
    Except OverloadRejected (Memory H) :=
  (Overload.addTo (s.view.under name) name new).map (s.store name)

/-- Registers overloads, in place, up to the first that is rejected. -/
def registerAll (s : Memory H) :
    List (String × Overload H) → Memory H × Option OverloadRejected
  | [] => (s, none)
  | (name, overload) :: rest =>
    match s.register name overload with
    | .ok next => next.registerAll rest
    | .error rejected => (s, some rejected)

/-- Registers definitions in place.  If one of them is rejected, the table is put back of
which a copy was made before. -/
def addScripts (s : Memory H) (functions : List Function) :
    Memory H × Option OverloadRejected :=
  let saved := s.table
  match s.registerAll (definitions functions) with
  | (next, none) => (next, none)
  | (next, some rejected) => ({ next with table := saved }, some rejected)

theorem map_putPlace (name : String) (place : Nat) (table : List (String × Nat))
    (listAt : Nat → List (Overload H)) :
    (putPlace name place table).map (fun entry => (entry.1, listAt entry.2)) =
      putOverloads name (listAt place) (table.map fun entry => (entry.1, listAt entry.2)) := by
  induction table with
  | nil => rfl
  | cons first rest ih =>
      obtain ⟨key, held⟩ := first
      by_cases hkey : name = key
      · simp [putPlace, putOverloads, hkey]
      · simp [putPlace, putOverloads, hkey, ih]

/-- More lists do not change what a table says about the old ones. -/
theorem Placed.view_append {s : Memory H} (h : s.Placed) (more : List (List (Overload H))) :
    view ⟨s.table, s.lists ++ more⟩ = s.view := by
  unfold view listAt
  congr 1
  apply List.map_congr_left
  intro entry hentry
  rw [List.getD_append _ _ _ _ (h entry hentry)]

theorem Placed.store {s : Memory H} (h : s.Placed) (name : String) (os : List (Overload H)) :
    (s.store name os).Placed := by
  intro entry hentry
  show entry.2 < (s.lists ++ [os]).length
  rw [List.length_append, List.length_singleton]
  rcases mem_put (putPlace name s.lists.length) rfl (fun _ _ _ => rfl) hentry with rfl | hold
  · exact Nat.lt_succ_self _
  · have hplace := h entry hold
    omega

/-- A list that is made and entered is the list of its name. -/
theorem Placed.view_store {s : Memory H} (h : s.Placed) (name : String)
    (os : List (Overload H)) : (s.store name os).view = s.view.put name os := by
  have hnew : (s.lists ++ [os]).getD s.lists.length [] = os := by simp
  have hold := congrArg Registry.functions (h.view_append [os])
  show Registry.mk ((putPlace name s.lists.length s.table).map
    fun entry => (entry.1, (s.lists ++ [os]).getD entry.2 [])) = _
  rw [map_putPlace name s.lists.length s.table fun place => (s.lists ++ [os]).getD place [],
    hnew]
  show Registry.mk (putOverloads name os (view ⟨s.table, s.lists ++ [os]⟩).functions) = _
  rw [hold]
  rfl

/-- Registration in memory is registration, of one overload. -/
theorem Placed.view_register {s : Memory H} (h : s.Placed) (name : String)
    (new : Overload H) :
    (s.register name new).map view = (s.view.register name new).map Prod.fst := by
  unfold Memory.register Registry.register
  show _ = Except.map Prod.fst ((Overload.addTo (s.view.under name) name new).bind fun _ => _)
  cases Overload.addTo (s.view.under name) name new with
  | error rejected => rfl
  | ok os =>
      show Except.ok (s.store name os).view = _
      rw [h.view_store]
      rfl

theorem Placed.register {s next : Memory H} (h : s.Placed) {name : String}
    {new : Overload H} (hnext : s.register name new = .ok next) : next.Placed := by
  unfold Memory.register at hnext
  cases hadd : Overload.addTo (s.view.under name) name new with
  | error rejected =>
      rw [hadd] at hnext
      cases hnext
  | ok os =>
      rw [hadd] at hnext
      cases hnext
      exact h.store name os

/-- No list is changed by registration: all that were there are still in their places. -/
theorem lists_isPrefix_registerAll (s : Memory H) (entries : List (String × Overload H)) :
    s.lists <+: (s.registerAll entries).1.lists := by
  induction entries generalizing s with
  | nil => exact List.prefix_refl _
  | cons entry rest ih =>
      obtain ⟨name, new⟩ := entry
      rw [Memory.registerAll]
      unfold Memory.register
      cases Overload.addTo (s.view.under name) name new with
      | error rejected => exact List.prefix_refl _
      | ok os => exact (List.prefix_append _ _).trans (ih (s.store name os))

/-- Registration in memory is registration, of any number of overloads. -/
theorem view_registerAll {s : Memory H} (h : s.Placed)
    (entries : List (String × Overload H)) :
    ((s.registerAll entries).1.view, (s.registerAll entries).2) =
      s.view.registerAll entries := by
  induction entries generalizing s with
  | nil => rfl
  | cons entry rest ih =>
      obtain ⟨name, new⟩ := entry
      have hstep := h.view_register name new
      rw [Memory.registerAll, Registry.registerAll]
      cases hmemory : s.register name new with
      | error rejected =>
          cases hregistry : s.view.register name new with
          | error rejected' =>
              rw [hmemory, hregistry] at hstep
              obtain rfl : rejected = rejected' := Except.error.inj hstep
              rfl
          | ok answer =>
              rw [hmemory, hregistry] at hstep
              cases hstep
      | ok next =>
          cases hregistry : s.view.register name new with
          | error rejected =>
              rw [hmemory, hregistry] at hstep
              cases hstep
          | ok answer =>
              rw [hmemory, hregistry] at hstep
              obtain hnext : next.view = answer.1 := Except.ok.inj hstep
              show ((next.registerAll rest).1.view, (next.registerAll rest).2) =
                answer.1.registerAll rest
              rw [ih (h.register hmemory), hnext]

/-- Definitions in memory are rejected as they are elsewhere; and if they are, the copy of
the table gives back the registry that was there. -/
theorem view_addScripts {s : Memory H} (h : s.Placed) (functions : List Function) :
    (s.addScripts functions).1.view = s.view.afterScripts functions ∧
      ∀ rejected, (s.addScripts functions).2 = some rejected ↔
        s.view.addScripts functions = .error rejected := by
  have hview := view_registerAll h (definitions functions)
  have hlists := s.lists_isPrefix_registerAll (definitions functions)
  have herror : ∀ rejected, s.view.addScripts functions = .error rejected ↔
      (s.view.registerAll (definitions functions)).2 = some rejected :=
    fun _ => addScripts_eq_error_iff
  rw [← hview] at herror
  unfold Memory.addScripts Registry.afterScripts
  generalize s.registerAll (definitions functions) = result at hview hlists herror ⊢
  obtain ⟨next, _ | rejected⟩ := result
  · obtain ⟨messages, hadd⟩ := addScripts_of_registerAll hview.symm
    rw [hadd]
    exact ⟨rfl, by simp⟩
  · have hadd : s.view.addScripts functions = .error rejected := (herror rejected).2 rfl
    obtain ⟨more, hmore⟩ := hlists
    rw [hadd]
    refine ⟨?_, by simp⟩
    show view ⟨s.table, next.lists⟩ = s.view
    rw [← hmore]
    exact h.view_append more

end Memory

/-- Definitions are registered all or not at all, and which it is can be told in advance.
They are rejected exactly if one of them has a name that has a host overload in the
registry as it is before, and the error names the first such definition; otherwise the
result is that of registering them one by one.  This holds also of a registry in memory
that is changed in place: after a rejection it has the same names in the same order with
the same overload lists, although only the table was copied. -/
theorem addScripts_all_or_nothing (r : Registry H) {functions : List Function}
    (hblocks : ∀ f ∈ functions, f.body.isBlock = true) :
    (∀ rejected, r.addScripts functions = .error rejected ↔
      ∃ before f behind, functions = before ++ f :: behind ∧ r.hasHost f.name = true ∧
        (∀ g ∈ before, r.hasHost g.name = false) ∧ rejected = ⟨f.name⟩) ∧
    ((∃ f ∈ functions, r.hasHost f.name = true) → r.afterScripts functions = r) ∧
    ((∀ f ∈ functions, r.hasHost f.name = false) →
      ∃ next messages, r.registerAll (definitions functions) = (next, none) ∧
        r.addScripts functions = .ok (next, messages) ∧ r.afterScripts functions = next) ∧
    ∀ s : Memory H, s.Placed → s.view = r →
      (s.addScripts functions).1.view = r.afterScripts functions ∧
      ∀ rejected, (s.addScripts functions).2 = some rejected ↔
        r.addScripts functions = .error rejected := by
  have hverdict := addScripts_eq_error_iff_split (r := r) hblocks
  refine ⟨hverdict, ?_, ?_, ?_⟩
  · rintro ⟨f, hf, hhost⟩
    cases hadd : r.addScripts functions with
    | error rejected => simp only [afterScripts, hadd]
    | ok answer =>
        -- the first such definition is the one that is rejected
        obtain ⟨g, hfind⟩ : ∃ g, functions.find? (fun f => r.hasHost f.name) = some g :=
          Option.isSome_iff_exists.1 (List.find?_isSome.2 ⟨f, hf, hhost⟩)
        obtain ⟨hg, before, behind, hsplit, hbefore⟩ := List.find?_eq_some_iff_append.1 hfind
        have hrejected := (hverdict ⟨g.name⟩).2
          ⟨before, g, behind, hsplit, hg, by simpa using hbefore, rfl⟩
        rw [hadd] at hrejected
        cases hrejected
  · intro hnone
    obtain ⟨next, hnext⟩ : ∃ next, r.registerAll (definitions functions) = (next, none) := by
      cases hall : r.registerAll (definitions functions) with
      | mk next outcome =>
          cases outcome with
          | none => exact ⟨next, rfl⟩
          | some rejected =>
              have hrejected := addScripts_eq_error_iff.2 (congrArg Prod.snd hall)
              obtain ⟨before, f, behind, rfl, hhost, -⟩ := (hverdict rejected).1 hrejected
              exact absurd hhost (by simp [hnone f (by simp)])
    obtain ⟨messages, hadd⟩ := addScripts_of_registerAll hnext
    exact ⟨next, messages, hnext, hadd, by simp only [afterScripts, hadd]⟩
  · rintro s hplaced rfl
    exact Memory.view_addScripts hplaced functions

/-- A new name and a name that changes its list, and behind them a definition that is
rejected: the table goes back to the old places. -/
theorem addScripts_all_or_nothing_changed :
    let script (name : String) (params : List Param) : Function :=
      ⟨name, params, .block [] none, some "", none⟩
    let s : Memory Unit :=
      ⟨[("f", 0), ("g", 1)],
        [[⟨[], .host (), none⟩], [⟨[], .script (.block [] none), none⟩]]⟩
    let functions :=
      [script "h" [], script "g" [⟨"a", true⟩], script "f" [⟨"a", false⟩], script "f" []]
    (∀ f ∈ functions, f.body.isBlock = true) ∧ s.Placed ∧
      (s.registerAll (definitions functions)).1.table = [("f", 0), ("g", 3), ("h", 2)] ∧
      s.view.addScripts functions = .error ⟨"f"⟩ ∧
      (s.addScripts functions).1.view = s.view := by
  intro script s functions
  have hblocks : ∀ f ∈ functions, f.body.isBlock = true := by decide
  have hplaced : s.Placed := by
    show ∀ entry ∈ s.table, entry.2 < s.lists.length
    decide
  have hfirst : s.view.hasHost "f" = true := rfl
  have hbefore : ∀ f ∈ [script "h" [], script "g" [⟨"a", true⟩]],
      s.view.hasHost f.name = false := by decide
  obtain ⟨hverdict, hkept, -, hmemory⟩ := addScripts_all_or_nothing s.view hblocks
  have hrejected : s.view.addScripts functions = .error ⟨"f"⟩ :=
    (hverdict ⟨"f"⟩).2 ⟨_, script "f" [⟨"a", false⟩], _, rfl, hfirst, hbefore, rfl⟩
  have hrestored : s.view.afterScripts functions = s.view :=
    hkept ⟨script "f" [], by simp [functions], hfirst⟩
  exact ⟨hblocks, hplaced, rfl, hrejected, (hmemory s hplaced rfl).1.trans hrestored⟩

end Registry

end TextShell
