import TextShell.Proofs.Program.Composition
import TextShell.Proofs.Registry.Rollback
import TextShell.Proofs.Session.Legality

/-!
# Listings as dumps

The listing of the scripts of a session is their texts, each cut out of the source that
it was defined in and put on a line of its own.  A definition ends with its body, and the
rules look at nothing behind it, so it is read alike wherever it is put.  The listing is
then a source of its own, of the same definitions, and registering them gives the lists
of overloads that are there.

The exception is a definition with a comment that is cut at a `;`, since there is no end
of its line in the source.  A source is `Finished` if it has no such definition, so that
all of them are still there if its last line is ended.

## Main results

* `defines_of_parse` — the text of a definition is a definition in front of any text.
* `source_of_definitions` — definitions on lines of their own are a source.
* `registerAll_unplaced` — what is registered does not depend on places.
* `listing_restores_scripts` — the listing of a session is a source of its scripts.
-/

namespace TextShell

/-! ## Definitions in front of any text -/

namespace Grammar

open TextShell.Parser Element

variable {s w r : List Char} {v : Element} {vs : List Element} {f : Function} {p : Program}

/-- No statement is the definition of a function. -/
theorem tag_of_execution {e : Element} {at_ stop : Cursor}
    (h : execution at_ = some (e, stop)) : e.tag ≠ .function := by
  have hrule : executionRule (Rule.value.parse at_.rest.length)
      (Rule.execution.parse at_.rest.length) at_ = some (e, stop) := h
  obtain ⟨hv, hx⟩ := parse_forms at_.rest.length
  simp only [executionRule, openStatement, orElse_eq_some] at hrule
  rcases hrule with h | ⟨-, h | ⟨-, h | ⟨-, h | ⟨-, h | ⟨-, h | ⟨-, h⟩⟩⟩⟩⟩⟩
  · rw [tag_of_tagged h]
    simp
  · obtain ⟨n, hn, -⟩ := controlStatement_controlAt hv (Nat.lt_succ_self _) h
    exact tag_ne_function hn
  all_goals
    rw [tag_of_tagged h]
    simp

/-- An item that is a definition was read by the rule for definitions. -/
theorem reads_functionRule (h : Reads unplaced item w r v) (htag : v.tag = .function) :
    Reads unplaced (functionRule execution) w r v := by
  rcases (uniform_functionRule (uniform_reader _)).reads_orElse h with h | ⟨-, h⟩
  · exact h
  · obtain ⟨e, rfl, he⟩ := h { rest := w ++ r } rfl
    rw [tag_unplaced] at htag
    exact absurd htag (tag_of_execution he)

/-- A definition keeps its text as its source. -/
theorem source_of_reads (h : Reads unplaced (functionRule execution) w r v)
    (hf : v.toFunction Document.name = .ok f) : f.source = some (String.ofList w) := by
  obtain ⟨e, rfl, he⟩ := h { rest := w ++ r } rfl
  obtain ⟨children, -, rfl⟩ := tagged_eq_some.1 he
  rw [Cursor.skip_offset (by simp), Nat.add_sub_cancel_left, List.take_left, unplaced_mk] at hf
  obtain ⟨parts, -, hf⟩ := bind_eq_ok.1 hf
  dsimp only [fault?, text?] at hf
  split at hf
  · cases hf
  · cases hf
  · simp only [bind_eq_ok] at hf
    obtain ⟨text, htext, source, hsource, name, -, hf⟩ := hf
    obtain rfl := Except.ok.inj htext
    rw [← Except.ok.inj hf]
    exact (Except.ok.inj hsource).symm

/-- The text is a definition of the function, whatever follows it. -/
def Defines (w : List Char) (f : Function) : Prop :=
  ∃ v, DenotesFunction f v ∧ ∀ z, Reads unplaced (functionRule execution) w z v

theorem Defines.source (h : Defines w f) : f.source = some (String.ofList w) := by
  obtain ⟨v, hv, hreads⟩ := h
  exact source_of_reads (hreads []) hv.2

theorem Defines.takes_gap (h : Defines w f) (z : List Char) : Takes gap [] (w ++ z) := by
  obtain ⟨v, -, hreads⟩ := h
  have htame : Tame w ['\n'] := fun _ _ _ _ => by simp
  obtain ⟨-, y, z', -, htext, -⟩ :=
    (carries_functionRule (carries_reader w.length).2).carry (Nat.le_succ _) htame
      (z := z) trivial (hreads _)
  rw [htext]
  exact takes_gap_iff.2 rfl

theorem Defines.ne_nil (h : Defines w f) : w ≠ [] := by
  obtain ⟨v, -, hreads⟩ := h
  exact List.length_pos_iff.1 ((hreads []).pos (shortens_functionRule (shortens_reader _).weaken))

/-- Each item of a source stands somewhere in its text. -/
theorem Source.exists_reads (h : Source s vs) (hv : v ∈ vs) :
    ∃ a w r, s = a ++ (w ++ r) ∧ Reads unplaced item w r v := by
  cases h with
  | empty => cases hv
  | @items g w ws g' v' vs hgap hfirst hrest =>
      rcases List.mem_cons.1 hv with rfl | hv
      · exact ⟨g, w, ws ++ g', rfl, hfirst⟩
      · obtain ⟨us, us', rfl⟩ := List.append_of_mem hv
        obtain ⟨w₁, w₂, rfl, -, hsteps⟩ := hrest.exists_append
        cases hsteps with
        | @cons w₂ ws _ _ _ hnext =>
            obtain ⟨sep, w₃, rfl, -, hitem⟩ :=
              Alike.reads_seq uniform_separator uniform_item hnext
            exact ⟨g ++ (w ++ (w₁ ++ sep)), w₃, ws ++ g', by simp, hitem⟩

/-- Each function of a program is that of one of its items. -/
theorem exists_denotesFunction (h : ProgramOf.ofElements Document.name vs = .ok p)
    (hf : f ∈ p.functions) : ∃ v ∈ vs, DenotesFunction f v := by
  induction vs generalizing p with
  | nil =>
      rw [← Except.ok.inj h] at hf
      cases hf
  | cons v vs ih =>
      rw [ProgramOf.ofElements] at h
      split at h
      · next htag =>
        obtain ⟨f', hf', h⟩ := bind_eq_ok.1 h
        obtain ⟨q, hq, h⟩ := bind_eq_ok.1 h
        rw [← Except.ok.inj h] at hf
        rcases List.mem_cons.1 hf with rfl | hf
        · exact ⟨v, List.mem_cons_self, htag, hf'⟩
        · obtain ⟨u, hu, hdenotes⟩ := ih hq hf
          exact ⟨u, List.mem_cons_of_mem _ hu, hdenotes⟩
      · obtain ⟨n, -, h⟩ := bind_eq_ok.1 h
        obtain ⟨q, hq, h⟩ := bind_eq_ok.1 h
        rw [← Except.ok.inj h] at hf
        obtain ⟨u, hu, hdenotes⟩ := ih hq hf
        exact ⟨u, List.mem_cons_of_mem _ hu, hdenotes⟩

/-- Each function of a source has its definition somewhere in the text. -/
theorem Source.exists_definition (h : Source s vs)
    (hp : ProgramOf.ofElements Document.name vs = .ok p) (hf : f ∈ p.functions) :
    ∃ a w r v, s = a ++ (w ++ r) ∧ DenotesFunction f v ∧
      Reads unplaced (functionRule execution) w r v := by
  obtain ⟨v, hv, hdenotes⟩ := exists_denotesFunction hp hf
  obtain ⟨a, w, r, htext, hitem⟩ := h.exists_reads hv
  exact ⟨a, w, r, v, htext, hdenotes, reads_functionRule hitem hdenotes.1⟩

/-- In a source whose last line is ended, definitions do not depend on what follows. -/
theorem Source.exists_defines (h : Source (s ++ ['\n']) vs)
    (hp : ProgramOf.ofElements Document.name vs = .ok p) (hf : f ∈ p.functions) :
    ∃ w, Defines w f := by
  obtain ⟨a, w, r, v, htext, hdenotes, hreads⟩ := h.exists_definition hp hf
  have htame : Tame w r := by
    have hwhole := tame_newline s []
    rw [htext] at hwhole
    simpa using hwhole.right.left
  refine ⟨w, v, hdenotes, fun z => ?_⟩
  exact ((carries_functionRule (carries_reader w.length).2).carry (Nat.le_succ _) htame
    trivial hreads).1

/-! ## Definitions on lines of their own -/

/-- Definitions on lines that follow. -/
theorem exists_steps {ws : List (List Char)} {fs : List Function}
    (h : List.Forall₂ Defines ws fs) :
    ∃ vs, Steps unplaced nextItem [] (ws.flatMap (['\n'] ++ ·)) vs ∧
      ProgramOf.ofElements Document.name vs = .ok ⟨fs, []⟩ := by
  induction h with
  | nil => exact ⟨[], .nil, rfl⟩
  | @cons w f ws fs hw _ ih =>
      obtain ⟨vs, hsteps, hvs⟩ := ih
      have hgap := hw.takes_gap (ws.flatMap (['\n'] ++ ·) ++ [])
      obtain ⟨v, hv, hreads⟩ := hw
      have hend : IsEnd ([] ++ ['\n']) := .mark (by simp) (.inl rfl)
      have hsep : Takes separator ['\n'] (w ++ (ws.flatMap (['\n'] ++ ·) ++ [])) :=
        takes_separator_append hend hgap
      have hnext : Reads unplaced nextItem (['\n'] ++ w) (ws.flatMap (['\n'] ++ ·) ++ []) v :=
        Yields.seq hsep (hreads _).orElse_left
      exact ⟨v :: vs, .cons (by simp) hnext hsteps, ofElements_function hv hvs⟩

/-- Definitions on lines of their own are a source of these definitions. -/
theorem source_of_definitions {ws : List (List Char)} {fs : List Function}
    (h : List.Forall₂ Defines ws fs) :
    ∃ vs, Source (['\n'].intercalate ws) vs ∧
      ProgramOf.ofElements Document.name vs = .ok ⟨fs, []⟩ := by
  cases h with
  | nil => exact ⟨[], .empty (takes_gap_iff.2 rfl), rfl⟩
  | @cons w f ws fs hw hws =>
      obtain ⟨vs, hsteps, hvs⟩ := exists_steps hws
      have hgap := hw.takes_gap (ws.flatMap (['\n'] ++ ·) ++ [])
      obtain ⟨v, hv, hreads⟩ := hw
      have hshort : Shortens 1 nextItem := shortens_separator.bind fun _ => shortens_item
      have hsource := Source.items hgap (hreads _).orElse_left hsteps hshort.refuses_nil
        (takes_gap_iff.2 rfl)
      rw [intercalate_cons_eq]
      exact ⟨v :: vs, by simpa using hsource, ofElements_function hv hvs⟩

end Grammar

namespace Program

open Grammar

/-- The texts of the definitions in a source. -/
def definitionTexts (s : String) : List (Option String) :=
  match parse s with
  | .ok p => p.functions.map FunctionOf.source
  | .error _ => []

theorem mem_definitionTexts {s : String} {text : Option String} :
    text ∈ definitionTexts s ↔ ∃ p, parse s = .ok p ∧ ∃ f ∈ p.functions, f.source = text := by
  unfold definitionTexts
  cases parse s with
  | error e => simp
  | ok p => simp

/-- The definitions in the source are still there if its last line is ended. -/
def Finished (s : String) : Prop :=
  ∀ text ∈ definitionTexts s, text ∈ definitionTexts (s ++ "\n")

instance (s : String) : Decidable (Finished s) := inferInstanceAs (Decidable (∀ _ ∈ _, _ ∈ _))

/-- A definition in a source is one in front of any text. -/
theorem defines_of_parse {s : String} {p : Program} {f : Function} (hs : Finished s)
    (hp : parse s = .ok p) (hf : f ∈ p.functions) : ∃ w, Defines w f.unplaced := by
  obtain ⟨vs, hsource, hvs⟩ := parse_iff_source.1 ⟨p, hp, rfl⟩
  have hmem : f.unplaced ∈ p.unplaced.functions := List.mem_map_of_mem hf
  obtain ⟨a, w, r, v, -, hdenotes, hreads⟩ := hsource.exists_definition hvs hmem
  -- the definition of the same text in the source whose last line is ended
  obtain ⟨q, hq, g, hg, hsame⟩ :=
    mem_definitionTexts.1 (hs f.source (mem_definitionTexts.2 ⟨p, hp, f, hf, rfl⟩))
  obtain ⟨us, hlines, hus⟩ := parse_iff_source.1 ⟨q, hq, rfl⟩
  rw [String.toList_append] at hlines
  have hmem' : g.unplaced ∈ q.unplaced.functions := List.mem_map_of_mem hg
  obtain ⟨w', hdefines⟩ := hlines.exists_defines hus hmem'
  obtain rfl : w = w' := by
    have htext : f.unplaced.source = some (String.ofList w) := source_of_reads hreads hdenotes.2
    have htext' : f.unplaced.source = some (String.ofList w') := hsame ▸ hdefines.source
    rw [htext] at htext'
    exact String.ofList_injective (Option.some.inj htext')
  obtain ⟨v', -, hreads'⟩ := hdefines
  obtain ⟨-, -, e, rfl, rfl⟩ := hreads.unique (hreads' r) rfl
  exact ⟨w, _, hdenotes, hreads'⟩

end Program

/-! ## Registries without places -/

namespace Overload

variable {H : Type}

/-- The overload without the places in its body. -/
def unplaced (o : Overload H) : Overload H :=
  match o.body with
  | .script tree => { o with body := .script tree.bare }
  | .host _ => o

@[simp] theorem params_unplaced (o : Overload H) : o.unplaced.params = o.params := by
  unfold unplaced
  split <;> rfl

@[simp] theorem isHost_unplaced (o : Overload H) : o.unplaced.isHost = o.isHost := by
  obtain ⟨params, body, source⟩ := o
  cases body with
  | script tree => cases tree <;> rfl
  | host entry => rfl

@[simp] theorem minArgs_unplaced (o : Overload H) : o.unplaced.minArgs = o.minArgs := by
  unfold minArgs isVariadic
  rw [params_unplaced]

@[simp] theorem maxArgs?_unplaced (o : Overload H) : o.unplaced.maxArgs? = o.maxArgs? := by
  unfold maxArgs? isVariadic
  rw [params_unplaced]

@[simp] theorem collides_unplaced (o other : Overload H) :
    o.unplaced.collides other.unplaced = o.collides other := by
  simp only [collides, minArgs_unplaced, maxArgs?_unplaced]

@[simp] theorem arity_unplaced (o : Overload H) : o.unplaced.arity = o.arity := by
  simp only [arity, minArgs_unplaced, maxArgs?_unplaced]

theorem addTo_unplaced (existing : List (Overload H)) (name : String) (new : Overload H) :
    addTo (existing.map unplaced) name new.unplaced =
      (addTo existing name new).map (List.map unplaced) := by
  have hany : (existing.map unplaced).any isHost = existing.any isHost := by
    simp [List.any_map, Function.comp_def]
  unfold addTo
  rw [isHost_unplaced, hany]
  split
  · rfl
  · simp [Except.map, List.filter_map, Function.comp_def]

end Overload

namespace Registry

variable {H : Type}

/-- The registry without the places in it. -/
def unplaced (r : Registry H) : Registry H :=
  ⟨r.functions.map fun function => (function.1, function.2.map Overload.unplaced)⟩

theorem overloads?_unplaced (r : Registry H) (name : String) :
    r.unplaced.overloads? name = (r.overloads? name).map (List.map Overload.unplaced) := by
  unfold unplaced overloads?
  induction r.functions with
  | nil => rfl
  | cons function rest ih =>
      rw [List.map_cons, List.lookup_cons, List.lookup_cons, ih]
      split <;> rfl

theorem getD_overloads?_unplaced (r : Registry H) (name : String) :
    (r.unplaced.overloads? name).getD [] =
      ((r.overloads? name).getD []).map Overload.unplaced := by
  rw [overloads?_unplaced]
  cases r.overloads? name <;> rfl

theorem putOverloads_unplaced (name : String) (os : List (Overload H))
    (functions : List (String × List (Overload H))) :
    (putOverloads name os functions).map (fun f => (f.1, f.2.map Overload.unplaced)) =
      putOverloads name (os.map Overload.unplaced)
        (functions.map fun f => (f.1, f.2.map Overload.unplaced)) := by
  induction functions with
  | nil => rfl
  | cons function rest ih =>
      obtain ⟨key, held⟩ := function
      simp only [putOverloads, List.map_cons]
      split
      · rfl
      · rw [List.map_cons, ih]

theorem register_unplaced (r : Registry H) (name : String) (new : Overload H) :
    r.unplaced.register name new.unplaced =
      (r.register name new).map fun answer => (answer.1.unplaced, answer.2) := by
  have hnone : (r.unplaced.overloads? name).isNone = (r.overloads? name).isNone := by
    rw [overloads?_unplaced, Option.isNone_map]
  unfold register
  dsimp only
  rw [getD_overloads?_unplaced, Overload.addTo_unplaced]
  cases Overload.addTo ((r.overloads? name).getD []) name new with
  | error rejected => rfl
  | ok os =>
      dsimp only [Except.map, bind, Except.bind, pure, Except.pure]
      rw [hnone, Overload.arity_unplaced, unplaced, unplaced, putOverloads_unplaced]

/-- What is registered does not depend on places. -/
theorem registerAll_unplaced (r : Registry H) (entries : List (String × Overload H)) :
    r.unplaced.registerAll (entries.map fun entry => (entry.1, entry.2.unplaced)) =
      ((r.registerAll entries).1.unplaced, (r.registerAll entries).2) := by
  induction entries generalizing r with
  | nil => rfl
  | cons entry rest ih =>
      simp only [List.map_cons, registerAll, register_unplaced]
      cases r.register entry.1 entry.2 with
      | error rejected => rfl
      | ok answer => exact ih answer.1

/-! ## The scripts of a registry -/

/-- The scripts among the overloads of a name, in order. -/
def scriptsOf (r : Registry H) (name : String) : List (Overload H) :=
  ((r.overloads? name).getD []).filter fun o => !o.isHost

/-- The scripts of a registry, sorted by name. -/
def scripts (r : Registry H) : Registry H :=
  ⟨(r.names.map fun name => (name, r.scriptsOf name)).filter fun entry => !entry.2.isEmpty⟩

theorem entries_scripts (r : Registry H) :
    r.scripts.entries =
      r.names.flatMap fun name => (r.scriptsOf name).map fun o => (name, o) := by
  unfold scripts entries
  induction r.names with
  | nil => rfl
  | cons name names ih =>
      rw [List.map_cons, List.filter_cons, List.flatMap_cons, ← ih]
      cases hscripts : r.scriptsOf name <;> simp

/-- Only scripts are in the listing that leaves out what is built in. -/
theorem listing_eq (r : Registry H) :
    r.listing { hosts := false } =
      "\n".intercalate (r.scripts.entries.map fun entry => entry.2.listed entry.1) := by
  rw [entries_scripts, List.map_flatMap]
  unfold listing scriptsOf
  simp only [Option.all_none, List.filter_true, List.map_map, Function.comp_def]
  congr 1
  refine List.flatMap_congr fun name _ => ?_
  induction (r.overloads? name).getD [] with
  | nil => rfl
  | cons o os ih =>
      rw [List.filterMap_cons, List.filter_cons, ih]
      cases o.isHost <;> rfl

/-- The names in the order of the listing. -/
theorem pairwise_names_scripts (r : Registry H) :
    (r.scripts.entries.map Prod.fst).Pairwise (· ≤ ·) := by
  have hsorted : r.names.Pairwise (· ≤ ·) := by
    have hnames := @List.pairwise_mergeSort String (fun a b => a ≤ b)
      (by simpa using fun a b c => le_trans) (by simpa using le_total) (r.functions.map Prod.fst)
    simpa [names] using hnames
  rw [entries_scripts]
  generalize r.names = names at hsorted
  induction hsorted with
  | nil => exact .nil
  | @cons name names hle _ ih =>
      rw [List.flatMap_cons, List.map_append]
      refine List.pairwise_append.2 ⟨?_, ih, ?_⟩
      · rw [List.map_map]
        exact List.pairwise_map.2 (List.pairwise_of_forall fun _ _ => le_rfl)
      · intro a ha b hb
        obtain ⟨-, rfl⟩ : r.scriptsOf name ≠ [] ∧ a = name := by simpa using ha
        obtain ⟨other, hother, o, -, rfl⟩ :
            ∃ other ∈ names, ∃ o ∈ r.scriptsOf other, other = b := by simpa using hb
        exact hle other hother

theorem overloads?_scripts (r : Registry H) (name : String) :
    (r.scripts.overloads? name).getD [] = r.scriptsOf name := by
  have hlookup (names : List String) :
      (List.lookup name ((names.map fun name => (name, r.scriptsOf name)).filter
        fun entry => !entry.2.isEmpty)).getD [] =
      if name ∈ names then r.scriptsOf name else [] := by
    induction names with
    | nil => rfl
    | cons key names ih =>
        rw [List.map_cons, List.filter_cons]
        by_cases hkey : name = key
        · subst hkey
          cases hscripts : r.scriptsOf name with
          | nil => simp [hscripts, ih]
          | cons o os => simp
        · cases hscripts : r.scriptsOf key with
          | nil => simp [ih, hkey]
          | cons o os =>
              rw [if_pos (by simp), List.lookup_cons, beq_false_of_ne hkey]
              simp [ih, hkey]
  unfold scripts overloads?
  rw [hlookup]
  split
  · rfl
  · next hname =>
    have hnone : r.overloads? name = none := by
      refine List.lookup_eq_none_iff.2 fun entry hentry => ?_
      refine bne_iff_ne.2 fun heq => hname ?_
      rw [names, List.mem_mergeSort, heq]
      exact List.mem_map_of_mem hentry
    rw [scriptsOf, hnone]
    rfl

theorem Tidy.scripts {r : Registry H} (h : r.Tidy) : r.scripts.Tidy := by
  constructor
  · have hnames : (r.scripts.functions.map Prod.fst).Sublist r.names := by
      have hsub := (List.filter_sublist (p := fun entry => !entry.2.isEmpty)
        (l := r.names.map fun name => (name, r.scriptsOf name))).map Prod.fst
      simpa [Registry.scripts, Function.comp_def] using hsub
    exact hnames.nodup ((List.mergeSort_perm _ _).nodup_iff.2 h.nodup)
  · intro entry hentry
    obtain ⟨hmem, hne⟩ := List.mem_filter.1 hentry
    obtain ⟨name, -, rfl⟩ := List.mem_map.1 hmem
    obtain ⟨hapart, hlast⟩ := h.overloads name
    exact ⟨by simpa using hne, hapart.filter _, hlast.filter _⟩

/-- The scripts of a tidy registry, in another order. -/
theorem Tidy.perm_entries_scripts {r : Registry H} (h : r.Tidy) :
    r.scripts.entries.Perm (r.entries.filter fun entry => !entry.2.isHost) := by
  have hentries : r.entries.filter (fun entry => !entry.2.isHost) =
      (r.functions.map Prod.fst).flatMap fun name =>
        (r.scriptsOf name).map fun o => (name, o) := by
    rw [entries, List.filter_flatMap, List.flatMap_map]
    refine List.flatMap_congr fun function hfunction => ?_
    rw [scriptsOf, h.overloads?_of_mem hfunction, List.filter_map]
    rfl
  rw [entries_scripts, hentries]
  exact (List.mergeSort_perm _ _).flatMap_right _

/-- Scripts with names that came in order are listed in the order in which they are held. -/
theorem Tidy.listing_of_sorted {r : Registry H} (h : r.Tidy) {held : List (String × String)}
    (hheld : ((r.entries.filter fun entry => !entry.2.isHost).map fun entry =>
      (entry.1, entry.2.listed entry.1)) = held)
    (hsorted : (held.map Prod.fst).Pairwise (· < ·)) :
    r.listing { hosts := false } = "\n".intercalate (held.map Prod.snd) := by
  subst hheld
  rw [List.map_map] at hsorted ⊢
  have hlt := List.pairwise_map.1 hsorted
  have hperm := h.perm_entries_scripts
  have hnames := List.pairwise_map.1 r.pairwise_names_scripts
  have hnodup : ((r.entries.filter fun entry => !entry.2.isHost).map Prod.fst).Nodup :=
    List.pairwise_map.2 (hlt.imp fun hab => hab.ne)
  have hsame : r.scripts.entries = r.entries.filter fun entry => !entry.2.isHost := by
    refine hperm.eq_of_pairwise ?_ hnames (hlt.imp fun hab => hab.le)
    intro a b ha hb hab hba
    exact List.inj_on_of_nodup_map hnodup (hperm.mem_iff.1 ha) hb (le_antisymm hab hba)
  rw [listing_eq, hsame]
  rfl

theorem Tidy.unplaced {r : Registry H} (h : r.Tidy) : r.unplaced.Tidy := by
  constructor
  · simpa [Registry.unplaced, Function.comp_def] using h.nodup
  · intro entry hentry
    obtain ⟨function, hfunction, rfl⟩ := List.mem_map.1 hentry
    have hsettled := h.settled function hfunction
    refine ⟨by simpa using hsettled.nonempty, ?_, ?_⟩
    · exact List.pairwise_map.2 (by simpa using hsettled.apart)
    · exact List.pairwise_map.2 (by simpa [Overload.HostsLast] using hsettled.hostsLast)

theorem entries_unplaced (r : Registry H) :
    r.unplaced.entries = r.entries.map fun entry => (entry.1, entry.2.unplaced) := by
  simp [entries, unplaced, List.flatMap_map, List.map_flatMap, Function.comp_def]

/-- Definitions that are the scripts of a tidy registry up to places restore its lists. -/
theorem Tidy.restored {r : Registry H} (h : r.Tidy) {functions : List Function}
    (hfunctions : functions.map (fun f => (f.name, (ofFunction f).unplaced)) =
      r.scripts.entries.map fun entry => (entry.1, entry.2.unplaced)) :
    ∃ restored messages, ({} : Registry H).addScripts functions = .ok (restored, messages) ∧
      ∀ name, ((restored.overloads? name).getD []).map Overload.unplaced =
        (r.scriptsOf name).map Overload.unplaced := by
  have htidy : Tidy (⟨[] ++ r.scripts.unplaced.functions⟩ : Registry H) := h.scripts.unplaced
  have hcopy := registerAll_entries htidy
  have hall := registerAll_unplaced ({} : Registry H) (definitions functions)
  have hentries : (definitions functions).map
      (fun entry : String × Overload H => (entry.1, entry.2.unplaced)) =
        r.scripts.unplaced.entries := by
    rw [entries_unplaced, ← hfunctions, definitions, List.map_map]
    rfl
  rw [hentries] at hall
  obtain ⟨hsame, hnone⟩ := Prod.mk.inj (hcopy.symm.trans hall)
  obtain ⟨messages, hadd⟩ := addScripts_of_registerAll (Prod.ext rfl hnone.symm)
  refine ⟨_, messages, hadd, fun name => ?_⟩
  rw [← getD_overloads?_unplaced, ← hsame, ← overloads?_scripts, ← getD_overloads?_unplaced]
  rfl

/-! ## Scripts that are listed as they were defined -/

/-- A definition that has a source keeps nothing of its place but in its body. -/
theorem ofFunction_unplaced {f : Function} {w : List Char} (h : Grammar.Defines w f.unplaced) :
    (ofFunction f : Overload H).unplaced = ofFunction f.unplaced := by
  have hsource : f.source = some (String.ofList w) := h.source
  rw [ofFunction, ofFunction, FunctionOf.unplaced, hsource]
  rfl

/-- If the overload is a script, its source is a definition of it in front of any text. -/
def Definable (name : String) (o : Overload H) : Prop :=
  o.isHost = false → ∃ w f, Grammar.Defines w f ∧ (f.name, ofFunction f) = (name, o.unplaced)

/-- The registry is tidy, and its scripts are definable. -/
structure Listable (r : Registry H) : Prop where
  tidy : r.Tidy
  definable : ∀ entry ∈ r.functions, ∀ o ∈ entry.2, Definable entry.1 o

theorem Listable.register {r next : Registry H} (h : r.Listable) {name message : String}
    {new : Overload H} (hnew : Definable name new)
    (hnext : r.register name new = .ok (next, message)) : next.Listable :=
  ⟨h.tidy.register hnext, forall_register h.definable hnew hnext⟩

theorem listable_empty : ({} : Registry H).Listable := ⟨tidy_empty, by simp⟩

theorem Listable.addScripts {r next : Registry H} (h : r.Listable) {s : String}
    (hs : Program.Finished s) {p : Program} (hp : Program.parse s = .ok p)
    {messages : List String} (hnext : r.addScripts p.functions = .ok (next, messages)) :
    next.Listable := by
  refine addScripts_induction (fun f hf r next message hr hstep => ?_) h hnext
  refine hr.register (fun _ => ?_) hstep
  obtain ⟨w, hdefines⟩ := Program.defines_of_parse hs hp hf
  exact ⟨w, f.unplaced, hdefines, Prod.ext rfl (ofFunction_unplaced hdefines).symm⟩

theorem listable_library : (Builtin.library id : Registry Builtin).Listable := by
  refine registerAll_induction (fun entry hentry r next message hr hnext => ?_) listable_empty
  refine hr.register (fun hscript => ?_) hnext
  obtain ⟨⟨name, b, overloads⟩, -, hmem⟩ := List.mem_flatMap.1 hentry
  obtain ⟨params, -, rfl⟩ := List.mem_map.1 hmem
  cases hscript

/-- What is listed of a script is its definition. -/
theorem Listable.exists_defines {r : Registry H} (h : r.Listable)
    {entry : String × Overload H} (hentry : entry ∈ r.scripts.entries) :
    ∃ f, Grammar.Defines (entry.2.listed entry.1).toList f ∧
      (f.name, ofFunction f) = (entry.1, entry.2.unplaced) := by
  rw [entries_scripts] at hentry
  obtain ⟨name, -, hmem⟩ := List.mem_flatMap.1 hentry
  obtain ⟨o, ho, rfl⟩ := List.mem_map.1 hmem
  obtain ⟨hheld, hscript⟩ := List.mem_filter.1 ho
  have hhost : o.isHost = false := by simpa using hscript
  have hdefinable : Definable name o := by
    cases hfound : r.overloads? name with
    | none =>
        rw [hfound] at hheld
        cases hheld
    | some os =>
        rw [hfound] at hheld
        exact h.definable (name, os) (mem_of_overloads? hfound) o hheld
  obtain ⟨w, f, hdefines, hf⟩ := hdefinable hhost
  have hlisted : o.listed name = String.ofList w := by
    have hsource : o.source = some (String.ofList w) := by
      have hkept : o.unplaced.source = o.source := by
        unfold Overload.unplaced
        split <;> rfl
      rw [← hkept, ← (Prod.mk.inj hf).2, ofFunction, hdefines.source]
      rfl
    unfold Overload.listed
    rw [hhost, hsource]
    simp [hdefines.ne_nil]
  refine ⟨f, ?_, hf⟩
  rw [hlisted, String.toList_ofList]
  exact hdefines

/-- The listing of a registry is a source of its scripts. -/
theorem Listable.parse_listing {r : Registry H} (h : r.Listable) :
    ∃ p, Program.parse (r.listing { hosts := false }) = .ok p ∧ p.executions = [] ∧
      p.functions.map (fun f => (f.name, (ofFunction f).unplaced)) =
        r.scripts.entries.map fun entry => (entry.1, entry.2.unplaced) := by
  have hentries : ∀ entry ∈ r.scripts.entries, ∃ f,
      (Grammar.Defines (entry.2.listed entry.1).toList f ∧
        (f.name, ofFunction f) = (entry.1, entry.2.unplaced)) ∧ ∃ w, Grammar.Defines w f := by
    intro entry hentry
    obtain ⟨f, hdefines, hf⟩ := h.exists_defines hentry
    exact ⟨f, ⟨hdefines, hf⟩, _, hdefines⟩
  obtain ⟨fs, hall, hdefined⟩ := Grammar.exists_forall₂ hentries
  have hdefines : List.Forall₂ Grammar.Defines
      (r.scripts.entries.map fun entry => (entry.2.listed entry.1).toList) fs :=
    List.forall₂_map_left_iff.2 (hall.flip.imp fun _ _ hf => hf.1)
  have hfs : fs.map (fun f => (f.name, ofFunction f)) =
      r.scripts.entries.map fun entry => (entry.1, entry.2.unplaced) := by
    rw [← List.forall₂_eq_eq_eq, List.forall₂_map_left_iff, List.forall₂_map_right_iff]
    exact hall.imp fun _ _ hf => hf.2
  obtain ⟨vs, hsource, hvs⟩ := Grammar.source_of_definitions hdefines
  have htext : (r.listing { hosts := false }).toList =
      ['\n'].intercalate (r.scripts.entries.map fun entry => (entry.2.listed entry.1).toList) := by
    rw [listing_eq, String.toList_intercalate, List.map_map]
    rfl
  rw [← htext] at hsource
  obtain ⟨p, hp, hprogram⟩ := Program.parse_iff_source.2 ⟨vs, hsource, hvs⟩
  obtain ⟨hfunctions, hexecutions⟩ := ProgramOf.mk.inj hprogram
  refine ⟨p, hp, List.map_eq_nil_iff.1 hexecutions, ?_⟩
  rw [← hfs, ← hfunctions, List.map_map]
  refine List.map_congr_left fun f hf => ?_
  have hmem : f.unplaced ∈ fs := by
    rw [← hfunctions]
    exact List.mem_map_of_mem hf
  obtain ⟨w, hw⟩ := hdefined _ hmem
  exact Prod.ext rfl (ofFunction_unplaced hw)

end Registry

namespace Session

theorem listable_start (world : World) : (Console.start world).registry.Listable := by
  have hlibrary := Registry.listable_library
  unfold Console.start addLibrary
  rw [show ({ world := world } : Session Builtin).registry = {} from rfl,
    hlibrary.tidy.merge_empty]
  exact hlibrary

theorem tidy_after (world : World) (sources : List String) :
    ((Console.start world).after Builtin.host sources).registry.Tidy :=
  after_induction (P := Registry.Tidy)
    (fun _ _ _ _ _ _ _ hr hadd => Registry.addScripts_induction
      (fun _ _ _ _ _ h hstep => h.register hstep) hr hadd) (listable_start world).tidy

/-- The listing of the scripts of a session is a faithful dump.  Behind any sources whose
definitions are finished, it is accepted as a program without statements.  The functions
of this program are the scripts that are held, sorted by name and in order within a name,
with their parameters, bodies and sources; and registering them where there are no
functions gives the lists of scripts that are held. -/
theorem listing_restores_scripts (world : World) (sources : List String)
    (hsources : ∀ s ∈ sources, Program.Finished s) :
    let r := ((Console.start world).after Builtin.host sources).registry
    ∃ p, Program.parse (r.listing { hosts := false }) = .ok p ∧ p.executions = [] ∧
      p.functions.map (fun f => (f.name, (Registry.ofFunction f).unplaced)) =
        r.names.flatMap (fun name => (r.scriptsOf name).map fun o => (name, o.unplaced)) ∧
      (p.functions.map FunctionOf.name).Pairwise (· ≤ ·) ∧
      ∃ restored messages,
        ({} : Registry Builtin).addScripts p.functions = .ok (restored, messages) ∧
        ∀ name, ((restored.overloads? name).getD []).map Overload.unplaced =
          (r.scriptsOf name).map Overload.unplaced := by
  intro r
  have hr : r.Listable := after_induction
    (fun s hs _ _ _ _ hparse hr hadd => hr.addScripts (hsources s hs) hparse hadd)
    (listable_start world)
  obtain ⟨p, hp, hexecutions, hfunctions⟩ := hr.parse_listing
  refine ⟨p, hp, hexecutions, ?_, ?_, hr.tidy.restored hfunctions⟩
  · rw [hfunctions, Registry.entries_scripts, List.map_flatMap]
    simp only [List.map_map, Function.comp_def]
  · have hnames : p.functions.map FunctionOf.name = r.scripts.entries.map Prod.fst := by
      have hfirst := congrArg (List.map Prod.fst) hfunctions
      simpa only [List.map_map, Function.comp_def] using hfirst
    rw [hnames]
    exact r.pairwise_names_scripts

/-- A script that is replaced, one with a `;` in a comment, and a source that is refused. -/
theorem listing_restores_scripts_comment :
    let sources := ["fn g(a)\x7bx\x7d;fn g()\x7by #z;\n\x7d", "fn f(%a)\x7b\x7d", "\x7b",
      "fn g(b)\x7b\x7d"]
    let r := ((Console.start {}).after Builtin.host sources).registry
    (∀ s ∈ sources, Program.Finished s) ∧
      ((r.entries.filter fun entry => !entry.2.isHost).map fun entry => entry.2.listed entry.1) =
        ["fn g()\x7by #z;\n\x7d", "fn g(b)\x7b\x7d", "fn f(%a)\x7b\x7d"] ∧
      ∃ p, Program.parse (r.listing { hosts := false }) = .ok p ∧ p.executions = [] ∧
        ∃ restored messages,
          ({} : Registry Builtin).addScripts p.functions = .ok (restored, messages) ∧
          ∀ name, ((restored.overloads? name).getD []).map Overload.unplaced =
            (r.scriptsOf name).map Overload.unplaced := by
  intro sources r
  have hsources : ∀ s ∈ sources, Program.Finished s := by decide +kernel
  refine ⟨hsources, by decide +kernel, ?_⟩
  obtain ⟨p, hp, hexecutions, -, -, hrestored⟩ := listing_restores_scripts {} sources hsources
  exact ⟨p, hp, hexecutions, hrestored⟩

/-- A comment at the end of a source that is cut at a `;` takes in the end of its definition
once a line follows, and the listing is refused. -/
theorem listing_refused_cut_comment :
    let r := ((Console.start {}).after Builtin.host
      ["fn f()\x7ba #b;c\x7d", "fn g()\x7b\x7d"]).registry
    ∀ p, Program.parse (r.listing { hosts := false }) ≠ .ok p := by
  intro r p hp
  have htidy : r.Tidy := tidy_after {} _
  have hheld : ((r.entries.filter fun entry => !entry.2.isHost).map fun entry =>
      (entry.1, entry.2.listed entry.1)) =
        [("f", "fn f()\x7ba #b;c\x7d"), ("g", "fn g()\x7b\x7d")] := by decide +kernel
  have hrefused : (Program.parse ("\n".intercalate
      ["fn f()\x7ba #b;c\x7d", "fn g()\x7b\x7d"])).toOption.isNone = true := by decide +kernel
  rw [htidy.listing_of_sorted hheld (by decide), List.map_cons, List.map_cons, List.map_nil] at hp
  rw [hp] at hrefused
  cases hrefused

end Session

end TextShell
