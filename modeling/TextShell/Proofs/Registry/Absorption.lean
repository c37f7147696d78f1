import TextShell.Proofs.Registry.Merge

/-!
# Merging a library again

Registering an overload that is already there drives it out and puts it back at
the end of its list, so merging a library a second time turns the lists of its
names round while it goes on.  At the end of a name every overload has had its
turn, and the list is as it was; what decides is that a rejection can come only
with the first overload of a name, before anything has moved.

The merge of a library is therefore followed name by name, not overload by
overload.  The overloads of one name are either rejected at once, or *absorbed*:
what collides with any of them is gone, the others keep their places, and the
new ones stand behind them.

## Main results

* `registerAll_entries_cons` — one name of a library is rejected or absorbed.
* `holds_of_registerAll` — a registry holds every library that it has taken.
* `Tidy.merge_of_holds` — a library that is held changes nothing.
* `merging_again_changes_nothing` — the second merge of a library, and the merge
  of a registry into itself.
-/

namespace TextShell

namespace Overload

variable {H : Type}

theorem collides_self (o : Overload H) : o.collides o = true :=
  collides_iff_ranges.2 ⟨minArgs_le, minArgs_le⟩

/-- The overloads of a name after `news` have been registered, none of which drives
out another. -/
def absorb (held news : List (Overload H)) : List (Overload H) :=
  held.filter (fun o => news.all fun new => !o.collides new) ++ news

/-- There is a script among the overloads. -/
def anyScript (os : List (Overload H)) : Bool := os.any fun o => !o.isHost

/-- There are scripts and host overloads under one name. -/
def isMixed (os : List (Overload H)) : Bool := anyScript os && os.any isHost

theorem isMixed_iff {os : List (Overload H)} :
    isMixed os = true ↔ (∃ o ∈ os, o.isHost = false) ∧ ∃ o ∈ os, o.isHost = true := by
  simp [isMixed, anyScript]

theorem absorb_singleton (held : List (Overload H)) (new : Overload H) :
    absorb held [new] = held.filter (fun o => !o.collides new) ++ [new] := by
  simp [absorb]

/-- The first of several overloads stays when the others come, and what it has driven
out does not come back. -/
theorem absorb_cons {held news : List (Overload H)} {new : Overload H}
    (h : ∀ later ∈ news, new.collides later = false) :
    absorb (absorb held [new]) news = absorb held (new :: news) := by
  have hnew : (news.all fun later => !new.collides later) = true := by
    simpa using h
  unfold absorb
  rw [List.filter_append, List.filter_filter, List.filter_singleton, hnew]
  simp [Bool.and_comm]

/-- Behind overloads that collide with none of them, `news` are absorbed already. -/
theorem absorb_append_self {kept news : List (Overload H)}
    (h : ∀ o ∈ kept, ∀ new ∈ news, o.collides new = false) :
    absorb (kept ++ news) news = kept ++ news := by
  have hkept : kept.filter (fun o => news.all fun new => !o.collides new) = kept := by
    apply List.filter_eq_self.2
    intro o ho
    simpa using h o ho
  have hnews : news.filter (fun o => news.all fun new => !o.collides new) = [] := by
    apply List.filter_eq_nil_iff.2
    intro o ho hall
    have hself : o.collides o = false := by simpa using List.all_eq_true.1 hall o ho
    exact absurd (collides_self o) (by simp [hself])
  unfold absorb
  rw [List.filter_append, hkept, hnews, List.append_nil]

/-- If there is a script at all, the first overload is one. -/
theorem HostsLast.head_isHost {new : Overload H} {news : List (Overload H)}
    (h : HostsLast (new :: news)) (hscript : anyScript (new :: news) = true) :
    new.isHost = false := by
  obtain ⟨hfirst, -⟩ := List.pairwise_cons.1 h
  by_contra hhost
  obtain ⟨o, ho, hscript⟩ := List.any_eq_true.1 hscript
  have ho' : o.isHost = true := by
    rcases List.mem_cons.1 ho with rfl | ho
    · simpa using hhost
    · exact hfirst o ho (by simpa using hhost)
  simp [ho'] at hscript

end Overload

namespace Registry

variable {H : Type}

/-! ## The overloads of one name -/

/-- The overloads under a name, of which there may be none. -/
def under (r : Registry H) (name : String) : List (Overload H) :=
  (r.overloads? name).getD []

/-- There is a host overload under the name. -/
def hasHost (r : Registry H) (name : String) : Bool := (r.under name).any Overload.isHost

/-- The registry with other overloads under a name. -/
def put (r : Registry H) (name : String) (os : List (Overload H)) : Registry H :=
  ⟨putOverloads name os r.functions⟩

theorem overloads?_put (r : Registry H) (name : String) (os : List (Overload H))
    (other : String) :
    (r.put name os).overloads? other =
      if other = name then some os else r.overloads? other :=
  lookup_put (putOverloads name os) rfl (fun _ _ _ => rfl) r.functions other

theorem under_put_self (r : Registry H) (name : String) (os : List (Overload H)) :
    (r.put name os).under name = os := by
  simp [under, overloads?_put]

theorem put_put (r : Registry H) (name : String) (first second : List (Overload H)) :
    (r.put name first).put name second = r.put name second := by
  unfold put
  congr 1
  induction r.functions with
  | nil => simp [putOverloads]
  | cons entry rest ih =>
      obtain ⟨key, held⟩ := entry
      by_cases hkey : name = key
      · simp [putOverloads, hkey]
      · simpa [putOverloads, hkey] using ih

/-- To put the overloads of a name where they are changes nothing. -/
theorem put_of_overloads? {r : Registry H} {name : String} {os : List (Overload H)}
    (h : r.overloads? name = some os) : r.put name os = r := by
  obtain ⟨functions⟩ := r
  change functions.lookup name = some os at h
  show Registry.mk (putOverloads name os functions) = _
  congr 1
  induction functions with
  | nil => cases h
  | cons entry rest ih =>
      obtain ⟨key, held⟩ := entry
      by_cases hkey : name = key
      · subst hkey
        obtain rfl : held = os := by simpa using h
        simp [putOverloads]
      · rw [List.lookup_cons, beq_eq_false_iff_ne.2 hkey] at h
        simp [putOverloads, hkey, ih h]

/-- One overload is absorbed, unless it is a script that comes to a host overload. -/
theorem register_absorbs {r : Registry H} {name : String} {new : Overload H}
    (h : new.isHost = false → r.hasHost name = false) :
    ∃ message, r.register name new =
      .ok (r.put name (Overload.absorb (r.under name) [new]), message) := by
  rcases register_cases r name new with ⟨hscript, hany, -⟩ | ⟨-, message, haccepted⟩
  · exact absurd hany (by simpa [hasHost, under] using h hscript)
  · rw [Overload.absorb_singleton]
    exact ⟨message, haccepted⟩

/-- A script that comes to a host overload is rejected. -/
theorem register_of_hasHost {r : Registry H} {name : String} {new : Overload H}
    (hnew : new.isHost = false) (h : r.hasHost name = true) :
    r.register name new = .error ⟨name⟩ := by
  rcases register_cases r name new with ⟨-, -, hrejected⟩ | ⟨hnone, -⟩
  · exact hrejected
  · exact absurd h (by simpa [hasHost, under] using hnone hnew)

/-- A script that is absorbed changes nothing about which names have host overloads. -/
theorem hasHost_absorb_script {r : Registry H} {name : String} {new : Overload H}
    (hnew : new.isHost = false) (h : r.hasHost name = false) (other : String) :
    (r.put name (Overload.absorb (r.under name) [new])).hasHost other = r.hasHost other := by
  by_cases hother : other = name
  · subst hother
    rw [h, hasHost, under_put_self, Overload.absorb_singleton, List.any_eq_false]
    rw [hasHost, List.any_eq_false] at h
    intro o ho
    rcases List.mem_append.1 ho with ho | ho
    · exact h o (List.mem_filter.1 ho).1
    · simpa [List.mem_singleton.1 ho] using hnew
  · simp only [hasHost, under, overloads?_put, if_neg hother]

/-- The overloads of a name are absorbed, unless there is a script among them and a host
overload in the registry. -/
theorem registerAll_absorbs {news : List (Overload H)} (hsettled : Overload.Settled news)
    {r : Registry H} {name : String}
    (h : Overload.anyScript news = true → r.hasHost name = false)
    (rest : List (String × Overload H)) :
    r.registerAll (entriesOf name news ++ rest) =
      (r.put name (Overload.absorb (r.under name) news)).registerAll rest := by
  obtain ⟨hne, hapart, hlast⟩ := hsettled
  induction news generalizing r with
  | nil => exact absurd rfl hne
  | cons new news ih =>
      have hnew : new.isHost = false → r.hasHost name = false := by
        intro hscript
        exact h (by simp [Overload.anyScript, hscript])
      obtain ⟨message, hregister⟩ := register_absorbs hnew
      have hstep : r.registerAll (entriesOf name (new :: news) ++ rest) =
          (r.put name (Overload.absorb (r.under name) [new])).registerAll
            (entriesOf name news ++ rest) := by
        show r.registerAll ((name, new) :: (entriesOf name news ++ rest)) = _
        rw [Registry.registerAll, hregister]
      obtain ⟨hnewApart, hnewsApart⟩ := List.pairwise_cons.1 hapart
      rw [hstep]
      cases news with
      | nil => rfl
      | cons second later =>
          -- a script behind the first overload means that this is one as well
          have hkept : Overload.anyScript (second :: later) = true →
              (r.put name (Overload.absorb (r.under name) [new])).hasHost name = false := by
            intro hscript
            have hfirst : new.isHost = false := hlast.head_isHost (by
              rw [Overload.anyScript, List.any_cons]
              exact Bool.or_eq_true_iff.2 (.inr hscript))
            rw [hasHost_absorb_script hfirst (hnew hfirst)]
            exact hnew hfirst
          rw [ih hkept (by simp) hnewsApart (List.pairwise_cons.1 hlast).2, under_put_self,
            put_put, Overload.absorb_cons hnewApart]

/-! ## The names of a library -/

/-- The overloads of a library's name have a script among them, and the registry has a
host overload under that name. -/
def refuses (r : Registry H) (entry : String × List (Overload H)) : Bool :=
  Overload.anyScript entry.2 && r.hasHost entry.1

/-- The registry with the overloads of a library's name absorbed. -/
def absorbing (r : Registry H) (entry : String × List (Overload H)) : Registry H :=
  r.put entry.1 (Overload.absorb (r.under entry.1) entry.2)

/-- One name of a library: it is refused before anything has changed, or absorbed. -/
theorem registerAll_entries_cons (r : Registry H) {entry : String × List (Overload H)}
    (h : Overload.Settled entry.2) (rest : List (String × List (Overload H))) :
    r.registerAll (entries ⟨entry :: rest⟩) =
      if r.refuses entry then (r, some ⟨entry.1⟩)
      else (r.absorbing entry).registerAll (entries ⟨rest⟩) := by
  obtain ⟨name, news⟩ := entry
  rw [entries_cons]
  by_cases hrefuses : r.refuses (name, news) = true
  · obtain ⟨hscript, hhost⟩ := Bool.and_eq_true_iff.1 hrefuses
    rw [if_pos hrefuses]
    cases news with
    | nil => exact absurd rfl h.nonempty
    | cons new news =>
        have hnew : new.isHost = false := h.hostsLast.head_isHost hscript
        show r.registerAll ((name, new) :: (entriesOf name news ++ entries ⟨rest⟩)) = _
        rw [Registry.registerAll, register_of_hasHost hnew hhost]
  · rw [if_neg hrefuses]
    apply registerAll_absorbs h
    intro hscript
    simpa [refuses, hscript] using hrefuses

/-- Registration does not touch the overloads of other names. -/
theorem overloads?_registerAll {entries : List (String × Overload H)} {other : String}
    (h : ∀ entry ∈ entries, entry.1 ≠ other) (r : Registry H) :
    (r.registerAll entries).1.overloads? other = r.overloads? other := by
  apply registerAll_induction (P := fun next => next.overloads? other = r.overloads? other)
  · intro entry hentry before next message hbefore hnext
    rcases register_cases before entry.1 entry.2 with ⟨-, -, hrejected⟩ | ⟨-, _, haccepted⟩
    · rw [hrejected] at hnext
      cases hnext
    · rw [haccepted] at hnext
      cases hnext
      rw [← hbefore]
      exact (overloads?_put before entry.1 _ other).trans
        (if_neg fun heq => h entry hentry heq.symm)
  · rfl

/-- The overloads of a library's name stand at the end of the list of that name, behind
others that they do not collide with; and none of those is a host overload if there is a
script among them. -/
def Holds (r : Registry H) (entry : String × List (Overload H)) : Prop :=
  ∃ kept, r.overloads? entry.1 = some (kept ++ entry.2) ∧
    (∀ o ∈ kept, ∀ new ∈ entry.2, o.collides new = false) ∧
    (Overload.anyScript entry.2 = true → kept.any Overload.isHost = false)

/-- A name that is held is absorbed without a change. -/
theorem Holds.absorbing_eq {r : Registry H} {entry : String × List (Overload H)}
    (h : r.Holds entry) : r.absorbing entry = r := by
  obtain ⟨kept, hfound, hapart, -⟩ := h
  have hunder : r.under entry.1 = kept ++ entry.2 := by simp [under, hfound]
  unfold absorbing
  rw [hunder, Overload.absorb_append_self hapart]
  exact put_of_overloads? hfound

/-- A name that is held is refused for its own host overloads only. -/
theorem Holds.refuses_eq {r : Registry H} {entry : String × List (Overload H)}
    (h : r.Holds entry) : r.refuses entry = Overload.isMixed entry.2 := by
  obtain ⟨kept, hfound, -, hkept⟩ := h
  have hunder : r.under entry.1 = kept ++ entry.2 := by simp [under, hfound]
  unfold refuses hasHost Overload.isMixed
  rw [hunder, List.any_append]
  cases hscript : Overload.anyScript entry.2 with
  | false => rfl
  | true => simp [hkept hscript]

/-- A name that has been absorbed is held. -/
theorem holds_absorbing {r : Registry H} {entry : String × List (Overload H)}
    (h : r.refuses entry = false) : (r.absorbing entry).Holds entry := by
  refine ⟨_, (overloads?_put r entry.1 _ entry.1).trans (if_pos rfl), ?_, ?_⟩
  · intro o ho new hnew
    simpa using List.all_eq_true.1 (List.mem_filter.1 ho).2 new hnew
  · intro hscript
    have hnone : r.hasHost entry.1 = false := by
      simpa [refuses, hscript] using h
    rw [hasHost, List.any_eq_false] at hnone
    rw [List.any_eq_false]
    intro o ho
    exact hnone o (List.mem_filter.1 ho).1

/-- A registry holds every name of a library that it has taken to the end. -/
theorem holds_of_registerAll {functions : List (String × List (Overload H))}
    (h : Tidy ⟨functions⟩) {r next : Registry H}
    (hnext : r.registerAll (entries ⟨functions⟩) = (next, none)) :
    ∀ entry ∈ functions, next.Holds entry := by
  induction functions generalizing r with
  | nil => simp
  | cons entry rest ih =>
      have hsettled := h.settled entry (by simp)
      have hrest : Tidy ⟨rest⟩ :=
        ⟨(List.nodup_cons.1 h.nodup).2, fun other ho => h.settled other (by simp [ho])⟩
      have hfresh : entry.1 ∉ rest.map Prod.fst := (List.nodup_cons.1 h.nodup).1
      rw [registerAll_entries_cons r hsettled] at hnext
      cases hrefuses : r.refuses entry with
      | true => simp [hrefuses] at hnext
      | false =>
          rw [hrefuses, if_neg (by simp)] at hnext
          -- no other name of the library touches what has been absorbed
          have hothers : ∀ other ∈ entries ⟨rest⟩, other.1 ≠ entry.1 := by
            intro other hother heq
            obtain ⟨function, hfunction, hmem⟩ := List.mem_flatMap.1 hother
            obtain ⟨o, -, rfl⟩ := List.mem_map.1 hmem
            exact hfresh (List.mem_map.2 ⟨function, hfunction, heq⟩)
          have hkept : next.overloads? entry.1 = (r.absorbing entry).overloads? entry.1 := by
            have hall := overloads?_registerAll hothers (r.absorbing entry)
            rwa [hnext] at hall
          intro other hother
          rcases List.mem_cons.1 hother with rfl | hother
          · obtain ⟨kept, hfound, hheld⟩ := holds_absorbing hrefuses
            exact ⟨kept, hkept.trans hfound, hheld⟩
          · exact ih hrest hnext other hother

/-! ## Libraries that are held -/

/-- Registering what is held changes nothing, and is rejected at the first name that has
both scripts and host overloads. -/
theorem registerAll_of_holds {functions : List (String × List (Overload H))}
    (hsettled : ∀ entry ∈ functions, Overload.Settled entry.2) {r : Registry H}
    (h : ∀ entry ∈ functions, r.Holds entry) :
    r.registerAll (entries ⟨functions⟩) =
      (r, (functions.find? fun entry => Overload.isMixed entry.2).map fun entry => ⟨entry.1⟩) := by
  induction functions with
  | nil => rfl
  | cons entry rest ih =>
      obtain ⟨hentry, hrest⟩ := List.forall_mem_cons.1 h
      obtain ⟨hsettledEntry, hsettledRest⟩ := List.forall_mem_cons.1 hsettled
      rw [registerAll_entries_cons r hsettledEntry, hentry.refuses_eq, hentry.absorbing_eq,
        List.find?_cons]
      cases Overload.isMixed entry.2 with
      | true => rfl
      | false => exact ih hsettledRest hrest

/-- The verdict on a library that is held. -/
theorem Tidy.merge_of_holds {r l : Registry H} (hl : l.Tidy)
    (h : ∀ entry ∈ l.functions, r.Holds entry) :
    (r.merge l).1 = r ∧ ((∃ rejected, (r.merge l).2 = .error rejected) ↔
      ∃ entry ∈ l.functions, Overload.isMixed entry.2 = true) := by
  have hall := registerAll_of_holds hl.settled h
  change r.registerAll l.entries = _ at hall
  rw [← List.find?_isSome]
  unfold merge
  dsimp only
  rw [hall]
  cases l.functions.find? fun entry => Overload.isMixed entry.2 with
  | none => simp
  | some entry => simp

/-- A registry holds itself. -/
theorem Tidy.holds_self {r : Registry H} (h : r.Tidy) : ∀ entry ∈ r.functions, r.Holds entry := by
  have hcopy := registerAll_entries (show Tidy ⟨[] ++ r.functions⟩ from h)
  exact holds_of_registerAll h hcopy

/-- Merging a library again changes nothing.  Once a library has been merged, a second
merge leaves the names, their order and their overload lists exactly as they are, whether
or not it is rejected; and it is rejected exactly if some name of the library has both a
script and a host overload.  A registry that is merged into itself does not change
either, and the same decides whether that is rejected. -/
theorem merging_again_changes_nothing {r l : Registry H} (hr : Reachable r)
    (hl : Reachable l) :
    (∀ merged message, r.merge l = (merged, .ok message) →
      (merged.merge l).1 = merged ∧
      ((∃ rejected, (merged.merge l).2 = .error rejected) ↔
        ∃ name os, l.overloads? name = some os ∧
          (∃ o ∈ os, o.isHost = false) ∧ ∃ o ∈ os, o.isHost = true)) ∧
    (r.merge r).1 = r ∧
    ((∃ rejected, (r.merge r).2 = .error rejected) ↔
      ∃ name os, r.overloads? name = some os ∧
        (∃ o ∈ os, o.isHost = false) ∧ ∃ o ∈ os, o.isHost = true) := by
  have hmixed : ∀ library : Registry H, library.Tidy →
      ((∃ entry ∈ library.functions, Overload.isMixed entry.2 = true) ↔
        ∃ name os, library.overloads? name = some os ∧
          (∃ o ∈ os, o.isHost = false) ∧ ∃ o ∈ os, o.isHost = true) := by
    intro library hlibrary
    have hmem : ∀ name os, (name, os) ∈ library.functions ↔
        library.overloads? name = some os :=
      fun name os => ⟨hlibrary.overloads?_of_mem, mem_of_overloads?⟩
    simp only [Prod.exists, hmem, Overload.isMixed_iff]
  constructor
  · intro merged message hmerge
    have htaken : r.registerAll l.entries = (merged, none) := by
      unfold merge at hmerge
      dsimp only at hmerge
      generalize r.registerAll l.entries = result at hmerge ⊢
      obtain ⟨next, _ | rejected⟩ := result
      · cases hmerge
        rfl
      · cases hmerge
    rw [← hmixed l hl.tidy]
    exact hl.tidy.merge_of_holds (holds_of_registerAll hl.tidy htaken)
  · rw [← hmixed r hr.tidy]
    exact hr.tidy.merge_of_holds hr.tidy.holds_self

theorem merge_of_taken {r l : Registry H} (h : (r.merge l).2.toOption.isSome = true) :
    ∃ message, r.merge l = ((r.merge l).1, .ok message) := by
  generalize r.merge l = answer at h ⊢
  obtain ⟨next, rejected | message⟩ := answer
  · cases h
  · exact ⟨message, rfl⟩

/-- A library that has taken its place behind two scripts of its names.  When it is merged
again, the scripts of the one name are turned round, and the other name is rejected. -/
theorem merging_again_changes_nothing_mixed :
    let script (name : String) (params : List Param) : Attempt Unit :=
      .addScript ⟨name, params, .block [] none, some "", none⟩
    let a : Param := ⟨"a", false⟩
    let b : Param := ⟨"b", false⟩
    let r : Registry Unit :=
      (afterAttempt {} (script "f" [a, b])).afterAttempt (script "g" [a, b])
    let l : Registry Unit :=
      (((afterAttempt {} (script "g" [])).afterAttempt (script "g" [a])).afterAttempt
        (script "f" [a])).afterAttempt (.addHost "f" [] ())
    let merged := (r.merge l).1
    Reachable r ∧ Reachable l ∧ merged.entries.length = 6 ∧
      (merged.merge l).1 = merged ∧ ∃ rejected, (merged.merge l).2 = .error rejected := by
  intro script a b r l merged
  have hr : Reachable r := (Reachable.empty.attempt _).attempt _
  have hl : Reachable l := (((Reachable.empty.attempt _).attempt _).attempt _).attempt _
  have hlength : merged.entries.length = 6 := by decide +kernel
  have htaken : (r.merge l).2.toOption.isSome = true := by decide +kernel
  obtain ⟨message, hmerge⟩ := merge_of_taken htaken
  obtain ⟨hkept, hrejected⟩ := (merging_again_changes_nothing hr hl).1 _ message hmerge
  have hmixed : ∃ name os, l.overloads? name = some os ∧
      (∃ o ∈ os, o.isHost = false) ∧ ∃ o ∈ os, o.isHost = true :=
    ⟨"f", _, rfl, ⟨_, List.mem_cons_self, rfl⟩, ⟨_, List.mem_cons_of_mem _ List.mem_cons_self, rfl⟩⟩
  exact ⟨hr, hl, hlength, hkept, hrejected.2 hmixed⟩

end Registry

end TextShell
