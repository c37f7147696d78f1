import TextShell.Proofs.Scope
import TextShell.Registry

/-!
# The registry and its history

What a registry holds is determined by the attempts at registration that were
made on it, in order.  An attempt is rejected if it comes from a script and a
host overload was accepted under its name before; all others are accepted.
What stands of the accepted overloads of a name are those that collide with no
later one.

The two halves depend on each other: whether an attempt is rejected is decided
by what stands, not by what was accepted, so a host overload must not be gone
without another one in its place.  It is not, since behind a host overload only
host overloads are accepted (`HostsLast`), and the last one always stands.

## Main results

* `collides_iff` — overloads collide if some count is accepted by both.
* `standing_concat` — registration, as a step of `standing`.
* `any_isHost_standing` — a host overload never goes without a host overload.
* `History.consistent_replay` — every history leads to a registry in which
  exactly the standing overloads are stored.
* `registry_determined_by_history` — the whole account.
-/

namespace TextShell

namespace Overload

variable {H : Type}

/-! ## Ranges of argument counts -/

theorem accepts_iff {o : Overload H} {count : Int} :
    o.accepts count = true ↔
      (o.minArgs : Int) ≤ count ∧ ∀ most ∈ o.maxArgs?, count ≤ (most : Int) := by
  unfold accepts
  cases o.maxArgs? <;> simp

theorem collides_iff_ranges {o other : Overload H} :
    o.collides other = true ↔ (∀ most ∈ other.maxArgs?, o.minArgs ≤ most) ∧
      ∀ most ∈ o.maxArgs?, other.minArgs ≤ most := by
  unfold collides
  cases o.maxArgs? <;> cases other.maxArgs? <;> simp

/-- The range of an overload is not empty. -/
theorem minArgs_le {o : Overload H} : ∀ most ∈ o.maxArgs?, o.minArgs ≤ most := by
  unfold maxArgs? minArgs
  cases o.isVariadic <;> simp

/-- Overloads collide exactly if some count is accepted by both. -/
theorem collides_iff {o other : Overload H} :
    o.collides other = true ↔
      ∃ count : Nat, o.accepts count = true ∧ other.accepts count = true := by
  rw [collides_iff_ranges]
  constructor
  · rintro ⟨hother, ho⟩
    -- the greater of the two lower bounds is in both ranges
    refine ⟨max o.minArgs other.minArgs, accepts_iff.2 ⟨?_, fun most hmost => ?_⟩,
      accepts_iff.2 ⟨?_, fun most hmost => ?_⟩⟩
    · exact_mod_cast le_max_left _ _
    · exact_mod_cast max_le (minArgs_le most hmost) (ho most hmost)
    · exact_mod_cast le_max_right _ _
    · exact_mod_cast max_le (hother most hmost) (minArgs_le most hmost)
  · rintro ⟨count, ho, hother⟩
    obtain ⟨hleast, hmost⟩ := accepts_iff.1 ho
    obtain ⟨hleast', hmost'⟩ := accepts_iff.1 hother
    exact ⟨fun most h => by exact_mod_cast hleast.trans (hmost' most h),
      fun most h => by exact_mod_cast hleast'.trans (hmost most h)⟩

theorem collides_of_accepts {o other : Overload H} {count : Int}
    (h : o.accepts count = true) (h' : other.accepts count = true) :
    o.collides other = true := by
  obtain ⟨hleast, -⟩ := accepts_iff.1 h
  lift count to Nat using le_trans (by positivity) hleast
  exact collides_iff.2 ⟨count, h, h'⟩

/-! ## What stands of a list of overloads -/

/-- The overloads that collide with no later one, in order. -/
def standing : List (Overload H) → List (Overload H)
  | [] => []
  | o :: later =>
    if later.any o.collides then standing later else o :: standing later

theorem standing_sublist (os : List (Overload H)) :
    (standing os).Sublist os := by
  induction os with
  | nil => exact .slnil
  | cons o later ih =>
      unfold standing
      split
      · exact ih.cons o
      · exact ih.cons_cons o

/-- A new overload stands, and drives out those that it collides with. -/
theorem standing_concat (os : List (Overload H)) (new : Overload H) :
    standing (os ++ [new]) =
      (standing os).filter (fun o => !o.collides new) ++ [new] := by
  induction os with
  | nil => rfl
  | cons o later ih =>
      simp only [List.cons_append, standing, List.any_append, List.any_cons,
        List.any_nil, Bool.or_false, Bool.or_eq_true, ih]
      by_cases hlater : later.any o.collides = true
      · simp only [hlater, true_or, if_true]
      · by_cases hnew : o.collides new = true <;> simp [hlater, hnew]

theorem standing_eq_nil {os : List (Overload H)} :
    standing os = [] ↔ os = [] := by
  induction os using List.reverseRecOn with
  | nil => simp [standing]
  | append_singleton os new _ => simp [standing_concat]

/-- What stands does not collide. -/
theorem pairwise_standing (os : List (Overload H)) :
    (standing os).Pairwise fun o later => o.collides later = false := by
  induction os with
  | nil => exact .nil
  | cons o later ih =>
      unfold standing
      split
      · exact ih
      · rename_i hlater
        refine List.pairwise_cons.2 ⟨fun other hother => ?_, ih⟩
        by_contra h
        exact hlater (List.any_eq_true.2
          ⟨other, (standing_sublist later).subset hother, by simpa using h⟩)

/-- At most one of the standing overloads accepts a count. -/
theorem length_filter_accepts_standing (os : List (Overload H)) (count : Int) :
    ((standing os).filter fun o => o.accepts count).length ≤ 1 := by
  have hpairwise := (pairwise_standing os).filter fun o => o.accepts count
  have haccepts : ∀ o ∈ (standing os).filter fun o => o.accepts count,
      o.accepts count = true := fun o ho => (List.mem_filter.1 ho).2
  generalize (standing os).filter _ = accepting at hpairwise haccepts ⊢
  rcases accepting with _ | ⟨first, _ | ⟨second, rest⟩⟩
  · simp
  · simp
  · have hapart := (List.pairwise_cons.1 hpairwise).1 second (by simp)
    have hmeet := collides_of_accepts (haccepts first (by simp))
      (haccepts second (by simp))
    exact absurd hmeet (by simp [hapart])

/-- Behind a host overload there are only host overloads. -/
def HostsLast (os : List (Overload H)) : Prop :=
  os.Pairwise fun o later => o.isHost = true → later.isHost = true

/-- A host overload never goes without another one in its place. -/
theorem any_isHost_standing {os : List (Overload H)} (h : HostsLast os) :
    (standing os).any isHost = os.any isHost := by
  induction os with
  | nil => rfl
  | cons o later ih =>
      obtain ⟨hfirst, hlater⟩ := List.pairwise_cons.1 h
      unfold standing
      split
      · rename_i hany
        obtain ⟨other, hother, -⟩ := List.any_eq_true.1 hany
        rw [ih hlater, List.any_cons]
        cases ho : o.isHost with
        | false => simp
        | true =>
            have hhost := hfirst other hother ho
            exact List.any_eq_true.2 ⟨other, hother, hhost⟩
      · rw [List.any_cons, List.any_cons, ih hlater]

end Overload

namespace Registry

variable {H : Type}

/-! ## Single attempts -/

/-- Registration rejects a script under a name that has a host overload.
Otherwise the new overload takes the place of those that it collides with. -/
theorem register_cases (r : Registry H) (name : String) (new : Overload H) :
    (new.isHost = false ∧
      ((r.overloads? name).getD []).any Overload.isHost = true ∧
      r.register name new = .error ⟨name⟩) ∨
    ((new.isHost = false →
        ((r.overloads? name).getD []).any Overload.isHost = false) ∧
      ∃ message, r.register name new = .ok (⟨putOverloads name
        (((r.overloads? name).getD []).filter (fun o => !o.collides new) ++
          [new]) r.functions⟩, message)) := by
  unfold register Overload.addTo
  cases hnew : new.isHost with
  | true => exact .inr ⟨by simp, _, rfl⟩
  | false =>
      cases hany : ((r.overloads? name).getD []).any Overload.isHost with
      | true =>
          dsimp only
          rw [hany]
          exact .inl ⟨rfl, rfl, rfl⟩
      | false =>
          dsimp only
          rw [hany]
          exact .inr ⟨fun _ => rfl, _, rfl⟩

theorem find?_accepts_standing {os : List (Overload H)} {count : Int}
    {o : Overload H} :
    (Overload.standing os).find? (fun o => o.accepts count) = some o ↔
      o ∈ Overload.standing os ∧ o.accepts count = true := by
  have hmem : o ∈ (Overload.standing os).filter (fun o => o.accepts count) ↔
      o ∈ Overload.standing os ∧ o.accepts count = true := List.mem_filter
  rw [← hmem, ← List.head?_filter]
  have hone := Overload.length_filter_accepts_standing os count
  generalize (Overload.standing os).filter _ = accepting at hone ⊢
  rcases accepting with _ | ⟨first, _ | ⟨second, rest⟩⟩
  · simp
  · simp [eq_comm]
  · simp at hone

theorem resolve_of_find? {r : Registry H} {name : String} {count : Int}
    {overloads : List (Overload H)} {o : Overload H}
    (h : r.overloads? name = some overloads)
    (hfind : overloads.find? (fun o => o.accepts count) = some o) :
    r.resolve name count = .ok o := by
  cases overloads with
  | nil => simp at hfind
  | cons first rest => simp only [resolve, h, hfind]

theorem resolve_of_none_accepts {r : Registry H} {name : String} {count : Int}
    {overloads : List (Overload H)} (h : r.overloads? name = some overloads)
    (hne : overloads ≠ [])
    (hfind : overloads.find? (fun o => o.accepts count) = none) :
    r.resolve name count = .error (.noMatchingOverload name count) := by
  cases overloads with
  | nil => exact absurd rfl hne
  | cons first rest => simp only [resolve, h, hfind]

/-- Resolution among the standing overloads of a name. -/
theorem resolve_standing {r : Registry H} {name : String}
    {os : List (Overload H)} (h : r.overloads? name =
      if os.isEmpty then none else some (Overload.standing os)) (count : Int) :
    (∀ o, r.resolve name count = .ok o ↔
      o ∈ Overload.standing os ∧ o.accepts count = true) ∧
    (r.resolve name count = .error (.noMatchingOverload name count) ↔
      os ≠ [] ∧ ∀ o ∈ Overload.standing os, o.accepts count = false) ∧
    (r.resolve name count = .error (.unknownFunction name) ↔ os = []) := by
  by_cases hos : os = []
  · have hresolve : r.resolve name count = .error (.unknownFunction name) := by
      simp only [resolve, h, hos, List.isEmpty_nil, if_true]
    simp [hresolve, hos, Overload.standing]
  · rw [if_neg (by simpa using hos)] at h
    have hne : Overload.standing os ≠ [] := mt Overload.standing_eq_nil.1 hos
    cases hfind : (Overload.standing os).find? fun o => o.accepts count with
    | none =>
        have hnone := List.find?_eq_none.1 hfind
        simp only [Bool.not_eq_true] at hnone
        rw [resolve_of_none_accepts h hne hfind]
        refine ⟨fun o => ⟨by simp, fun ho => ?_⟩, by simpa [hos] using hnone,
          by simp [hos]⟩
        exact absurd ho.2 (by simp [hnone o ho.1])
    | some found =>
        have hfound := find?_accepts_standing.1 hfind
        rw [resolve_of_find? h hfind]
        refine ⟨fun o => ?_, ⟨by simp, fun hnone => ?_⟩, by simp [hos]⟩
        · rw [← find?_accepts_standing, hfind]
          simp
        · exact absurd hfound.2 (by simp [hnone.2 found hfound.1])

/-- An attempt at registration. -/
inductive Attempt (H : Type) where
  | register (name : String) (overload : Overload H)
  | addHost (name : String) (params : List String) (entry : H)
  | addScript (f : Function)

namespace Attempt

/-- The name that an attempt is made under. -/
def name : Attempt H → String
  | .register name _ => name
  | .addHost name _ _ => name
  | .addScript f => f.name

/-- The overload that an attempt brings. -/
def overload : Attempt H → Overload H
  | .register _ overload => overload
  | .addHost _ params entry => ⟨params.map Param.ofText, .host entry, none⟩
  | .addScript f => ofFunction f

/-- Makes the attempt. -/
def run (r : Registry H) : Attempt H → Except OverloadRejected (Registry H × String)
  | .register name overload => r.register name overload
  | .addHost name params entry => r.addHost name params entry
  | .addScript f => r.addScript f

theorem run_eq (r : Registry H) (a : Attempt H) :
    a.run r = r.register a.name a.overload := by
  cases a <;> rfl

end Attempt

/-! ## Histories -/

/-- A registry and the overloads that it has accepted, with their names, in
order. -/
structure History (H : Type) where
  registry : Registry H := {}
  accepted : List (String × Overload H) := []

namespace History

/-- Makes an attempt and takes down whether it was accepted. -/
def attempt (h : History H) (a : Attempt H) : History H :=
  match a.run h.registry with
  | .ok (next, _) => ⟨next, h.accepted ++ [(a.name, a.overload)]⟩
  | .error _ => h

/-- The history of attempts on an empty registry. -/
def replay (attempts : List (Attempt H)) : History H :=
  attempts.foldl attempt {}

theorem replay_concat (attempts : List (Attempt H)) (a : Attempt H) :
    replay (attempts ++ [a]) = (replay attempts).attempt a :=
  List.foldl_append

/-- The overloads that were accepted under a name. -/
def under (h : History H) (name : String) : List (Overload H) :=
  (h.accepted.filter fun entry => entry.1 = name).map Prod.snd

/-- The registry holds what stands of the overloads that it has accepted, and
no script was accepted behind a host overload. -/
structure Consistent (h : History H) : Prop where
  overloads? : ∀ name, h.registry.overloads? name =
    if (h.under name).isEmpty then none
    else some (Overload.standing (h.under name))
  hostsLast : ∀ name, Overload.HostsLast (h.under name)

variable {h : History H}

theorem Consistent.getD (hc : h.Consistent) (name : String) :
    (h.registry.overloads? name).getD [] = Overload.standing (h.under name) := by
  rw [hc.overloads? name]
  cases h.under name <;> simp [Overload.standing]

theorem Consistent.any_isHost (hc : h.Consistent) (name : String) :
    ((h.registry.overloads? name).getD []).any Overload.isHost =
      (h.under name).any Overload.isHost := by
  rw [hc.getD name]
  exact Overload.any_isHost_standing (hc.hostsLast name)

theorem attempt_of_error {a : Attempt H} {e : OverloadRejected}
    (ha : a.run h.registry = .error e) : h.attempt a = h := by
  unfold attempt
  rw [ha]

theorem attempt_of_ok {a : Attempt H} {next : Registry H} {message : String}
    (ha : a.run h.registry = .ok (next, message)) :
    h.attempt a = ⟨next, h.accepted ++ [(a.name, a.overload)]⟩ := by
  unfold attempt
  rw [ha]

theorem under_concat (next : Registry H) (name : String) (new : Overload H)
    (other : String) :
    under ⟨next, h.accepted ++ [(name, new)]⟩ other =
      h.under other ++ if other = name then [new] else [] := by
  by_cases hname : name = other
  · simp [under, hname]
  · simp [under, hname, Ne.symm hname]

/-- Where a script is accepted there was no host overload. -/
theorem Consistent.hostsLast_concat (hc : h.Consistent) {name : String}
    {new : Overload H} (hnew : new.isHost = false →
      ((h.registry.overloads? name).getD []).any Overload.isHost = false) :
    Overload.HostsLast (h.under name ++ [new]) := by
  refine List.pairwise_append.2 ⟨hc.hostsLast name, List.pairwise_singleton _ _,
    fun o ho later hlater hhost => ?_⟩
  obtain rfl : later = new := by simpa using hlater
  by_contra hscript
  have hnone := hnew (by simpa using hscript)
  rw [hc.any_isHost, List.any_eq_false] at hnone
  exact hnone o ho hhost

/-- One attempt keeps the registry consistent with its history. -/
theorem Consistent.attempt (hc : h.Consistent) (a : Attempt H) :
    (h.attempt a).Consistent := by
  rcases register_cases h.registry a.name a.overload with
    ⟨-, -, hrejected⟩ | ⟨hscript, message, haccepted⟩
  · rw [attempt_of_error ((a.run_eq _).trans hrejected)]
    exact hc
  · rw [attempt_of_ok ((a.run_eq _).trans haccepted)]
    constructor
    · intro other
      change (putOverloads _ _ _).lookup other = _
      rw [lookup_put (putOverloads _ _) rfl fun _ _ _ => rfl, under_concat]
      by_cases hother : other = a.name
      · subst hother
        rw [hc.getD, ← Overload.standing_concat]
        simp
      · simp only [hother, if_false, List.append_nil]
        exact hc.overloads? other
    · intro other
      rw [under_concat]
      by_cases hother : other = a.name
      · subst hother
        rw [if_pos rfl]
        exact hc.hostsLast_concat hscript
      · rw [if_neg hother, List.append_nil]
        exact hc.hostsLast other

/-- Every history leads to a registry that is consistent with it. -/
theorem consistent_replay (attempts : List (Attempt H)) :
    (replay attempts).Consistent := by
  induction attempts using List.reverseRecOn with
  | nil => exact ⟨fun _ => rfl, fun _ => .nil⟩
  | append_singleton attempts a ih =>
      rw [replay_concat]
      exact ih.attempt a

/-- An attempt is rejected exactly if it brings a script and a host overload
was accepted under its name. -/
theorem Consistent.run_eq_error_iff (hc : h.Consistent) (a : Attempt H)
    (e : OverloadRejected) :
    a.run h.registry = .error e ↔ e = ⟨a.name⟩ ∧ a.overload.isHost = false ∧
      ∃ o ∈ h.under a.name, o.isHost = true := by
  rw [a.run_eq, ← List.any_eq_true, ← hc.any_isHost]
  rcases register_cases h.registry a.name a.overload with
    ⟨hscript, hany, hrejected⟩ | ⟨hscript, message, haccepted⟩
  · simp [hrejected, hscript, hany, eq_comm]
  · rw [haccepted]
    refine ⟨by simp, fun ⟨_, hnew, hany⟩ => ?_⟩
    exact absurd (hscript hnew) (by simp [hany])

end History

/-- The registry is determined by its history.  After any attempts on an empty
registry, an attempt is rejected exactly if it brings a script and a host
overload was accepted under its name, and then changes nothing.  The overloads
of a name are those accepted ones that collide with no later one.  Overloads
collide exactly if they accept a count in common, so at most one of them
accepts a count, and resolution finds it; it fails for want of a match if the
name was ever accepted, and of the name if it was not. -/
theorem registry_determined_by_history (attempts : List (Attempt H))
    (name : String) :
    let h := History.replay attempts
    (∀ (a : Attempt H) (e : OverloadRejected),
      a.run h.registry = .error e ↔ e = ⟨a.name⟩ ∧
        a.overload.isHost = false ∧ ∃ o ∈ h.under a.name, o.isHost = true) ∧
    (∀ (a : Attempt H) (e : OverloadRejected), a.run h.registry = .error e →
      History.replay (attempts ++ [a]) = h) ∧
    (h.registry.overloads? name = if (h.under name).isEmpty then none
      else some (Overload.standing (h.under name))) ∧
    (∀ o other : Overload H, o.collides other = true ↔
      ∃ count : Nat, o.accepts count = true ∧ other.accepts count = true) ∧
    ∀ count : Int,
      ((Overload.standing (h.under name)).filter
        fun o => o.accepts count).length ≤ 1 ∧
      (∀ o, h.registry.resolve name count = .ok o ↔
        o ∈ Overload.standing (h.under name) ∧ o.accepts count = true) ∧
      (h.registry.resolve name count = .error (.noMatchingOverload name count) ↔
        h.under name ≠ [] ∧
          ∀ o ∈ Overload.standing (h.under name), o.accepts count = false) ∧
      (h.registry.resolve name count = .error (.unknownFunction name) ↔
        h.under name = []) := by
  intro h
  have hc : h.Consistent := History.consistent_replay attempts
  refine ⟨hc.run_eq_error_iff, fun a e ha => ?_, hc.overloads? name,
    fun o other => Overload.collides_iff, fun count => ?_⟩
  · rw [History.replay_concat]
    exact History.attempt_of_error ha
  · exact ⟨Overload.length_filter_accepts_standing _ count,
      resolve_standing (hc.overloads? name) count⟩

/-- A variadic overload drives out two others, one of which comes back and
drives it out in turn, so that a gap is left; and a script comes too late. -/
theorem registry_determined_by_history_gap :
    let script (params : List Param) : Overload Unit :=
      ⟨params, .script (.block [] none), none⟩
    let attempts : List (Attempt Unit) :=
      [.register "f" (script [⟨"a", false⟩]),
        .register "f" (script [⟨"a", false⟩, ⟨"b", false⟩]),
        .register "f" (script [⟨"a", true⟩]),
        .register "f" (script [⟨"a", false⟩, ⟨"b", false⟩]),
        .addHost "f" [] ()]
    let late : Attempt Unit := .register "f" (script [⟨"a", false⟩])
    let h := History.replay attempts
    (h.under "f").length = 5 ∧
      h.registry.resolve "f" 1 = .error (.noMatchingOverload "f" 1) ∧
      late.run h.registry = .error ⟨"f"⟩ ∧
      History.replay (attempts ++ [late]) = h := by
  intro script attempts late h
  obtain ⟨hrejected, hkept, -, -, hcount⟩ :=
    registry_determined_by_history attempts "f"
  have hlength : (h.under "f").length = 5 := by decide
  have hhost : (h.under "f").any Overload.isHost = true := by decide
  have hgap : (Overload.standing (h.under "f")).all
      (fun o => !o.accepts 1) = true := by decide
  have hlate : late.run h.registry = .error ⟨"f"⟩ :=
    (hrejected late _).2 ⟨rfl, rfl, List.any_eq_true.1 hhost⟩
  have hnomatch : ∀ o ∈ Overload.standing (h.under "f"),
      o.accepts 1 = false := by simpa using hgap
  have hne : h.under "f" ≠ [] := List.ne_nil_of_length_eq_add_one hlength
  exact ⟨hlength, (hcount 1).2.2.1.2 ⟨hne, hnomatch⟩, hlate,
    hkept late _ hlate⟩

end Registry

end TextShell
