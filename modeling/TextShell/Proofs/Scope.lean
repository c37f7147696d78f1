import Mathlib
import TextShell.Scope

/-!
# What scopes bind

How assignment and declaration change a stack: an assignment changes one
binding, the nearest visible one, or makes one in the innermost scope.  From
this follow the two relations between a stack and a later one that evaluation
maintains.  `AddsNames` says which names are bound: nothing is lost, and
only the innermost scope may have gained names.  `KeepsShadowed` says that a
binding which an inner frame hides is as it was.

## Main results

* `set_cases` — the three things that an assignment can do.
* `addsNames_set` — an assignment adds at most its target, to the innermost
  scope.
* `keepsShadowed_set` — an assignment leaves hidden bindings alone.
* `AddsNames.pop` — what was added to a frame is gone when it is dropped.
-/

namespace TextShell

/-- What a look-up finds in a list of named values, after one was put in the
place of the old value of its name, or at the end. -/
theorem lookup_put {α : Type} {name : String} {value : α}
    (put : List (String × α) → List (String × α))
    (hnil : put [] = [(name, value)])
    (hcons : ∀ key held rest, put ((key, held) :: rest) =
      if name == key then (name, value) :: rest else (key, held) :: put rest)
    (entries : List (String × α)) (other : String) :
    (put entries).lookup other =
      if other = name then some value else entries.lookup other := by
  induction entries with
  | nil =>
      rw [hnil]
      by_cases h : other = name
      · simp [h]
      · simp [List.lookup_cons, beq_eq_false_iff_ne.2 h, h]
  | cons entry rest ih =>
      obtain ⟨key, held⟩ := entry
      rw [hcons]
      by_cases hkey : name = key
      · subst hkey
        by_cases h : other = name
        · simp [h]
        · simp [List.lookup_cons, beq_eq_false_iff_ne.2 h, h]
      · by_cases hother : other = key
        · subst hother
          simp [hkey, Ne.symm hkey]
        · simp [hkey, List.lookup_cons, beq_eq_false_iff_ne.2 hother, ih]

/-- Of what stands in the list then, only that one entry is new. -/
theorem mem_put {α : Type} {name : String} {value : α}
    (put : List (String × α) → List (String × α))
    (hnil : put [] = [(name, value)])
    (hcons : ∀ key held rest, put ((key, held) :: rest) =
      if name == key then (name, value) :: rest else (key, held) :: put rest)
    {entries : List (String × α)} {entry : String × α} (h : entry ∈ put entries) :
    entry = (name, value) ∨ entry ∈ entries := by
  induction entries with
  | nil =>
      rw [hnil] at h
      exact .inl (List.mem_singleton.1 h)
  | cons first rest ih =>
      rw [hcons] at h
      split at h
      · rcases List.mem_cons.1 h with h | h
        · exact .inl h
        · exact .inr (List.mem_cons_of_mem _ h)
      · rcases List.mem_cons.1 h with h | h
        · exact .inr (List.mem_cons.2 (.inl h))
        · exact (ih h).imp_right (List.mem_cons_of_mem _)

/-- Where the names are distinct, every one of them has the value that stands with it. -/
theorem lookup_of_mem {α : Type} {name : String} {value : α} {entries : List (String × α)}
    (hnodup : (entries.map Prod.fst).Nodup) (h : (name, value) ∈ entries) :
    entries.lookup name = some value := by
  induction entries with
  | nil => cases h
  | cons entry rest ih =>
      obtain ⟨hfresh, hrest⟩ := List.nodup_cons.1 hnodup
      rcases List.mem_cons.1 h with rfl | h
      · exact List.lookup_cons_self
      · have hne : name ≠ entry.1 := by
          rintro rfl
          exact hfresh (List.mem_map.2 ⟨_, h, rfl⟩)
        rw [List.lookup_cons, beq_eq_false_iff_ne.2 hne]
        exact ih hrest h

namespace Scope

theorem get?_put (scope : Scope) (name : String) (value : Value)
    (other : String) :
    (scope.put name value).get? other =
      if other = name then some value else scope.get? other :=
  lookup_put (putBinding name value) rfl (fun _ _ _ => rfl) scope.bindings other

@[simp] theorem get?_put_self (scope : Scope) (name : String)
    (value : Value) : (scope.put name value).get? name = some value := by
  simp [get?_put]

theorem get?_put_of_ne (scope : Scope) {name other : String} (value : Value)
    (h : other ≠ name) : (scope.put name value).get? other = scope.get? other := by
  simp [get?_put, h]

theorem contains_put (scope : Scope) (name : String) (value : Value)
    (other : String) :
    (scope.put name value).contains other =
      (decide (other = name) || scope.contains other) := by
  by_cases h : other = name
  · simp [contains, h]
  · simp [contains, get?_put_of_ne scope value h, h]

/-- A name that is new is bound behind the others. -/
theorem bindings_put_of_notMem {scope : Scope} {name : String} {value : Value}
    (h : name ∉ scope.bindings.map Prod.fst) :
    (scope.put name value).bindings = scope.bindings ++ [(name, value)] := by
  obtain ⟨bindings⟩ := scope
  show putBinding name value bindings = bindings ++ [(name, value)]
  induction bindings with
  | nil => rfl
  | cons entry rest ih =>
      obtain ⟨key, held⟩ := entry
      obtain ⟨hkey, hrest⟩ : name ≠ key ∧ name ∉ rest.map Prod.fst := by simpa using h
      simp [putBinding, hkey, ih hrest]

/-- The two scopes bind the same names. -/
def SameNames (a b : Scope) : Prop :=
  ∀ name, b.contains name = a.contains name

/-- The second scope binds the names of the first, and beyond them only some
of `names`. -/
def AddsNames (names : List String) (a b : Scope) : Prop :=
  ∀ name, (a.contains name = true → b.contains name = true) ∧
    (b.contains name = true → a.contains name = true ∨ name ∈ names)

theorem SameNames.refl (a : Scope) : SameNames a a := fun _ => rfl

theorem SameNames.trans {a b c : Scope} (h : SameNames a b)
    (h' : SameNames b c) : SameNames a c :=
  fun name => (h' name).trans (h name)

theorem sameNames_put {scope : Scope} {name : String} (value : Value)
    (h : scope.contains name = true) :
    SameNames scope (scope.put name value) := by
  intro other
  rw [contains_put]
  by_cases hother : other = name
  · simp [hother, h]
  · simp [hother]

theorem SameNames.addsNames {a b : Scope} (h : SameNames a b)
    (names : List String) : AddsNames names a b := by
  intro name
  rw [h name]
  exact ⟨id, .inl⟩

theorem AddsNames.sameNames {a b : Scope} (h : AddsNames [] a b) :
    SameNames a b := by
  intro name
  obtain ⟨hkeeps, honly⟩ := h name
  rw [Bool.eq_iff_iff]
  exact ⟨fun hb => (honly hb).resolve_right (by simp), hkeeps⟩

theorem AddsNames.trans {names names' : List String} {a b c : Scope}
    (h : AddsNames names a b) (h' : AddsNames names' b c) :
    AddsNames (names ++ names') a c := by
  intro name
  obtain ⟨hkeeps, honly⟩ := h name
  obtain ⟨hkeeps', honly'⟩ := h' name
  refine ⟨fun ha => hkeeps' (hkeeps ha), fun hc => ?_⟩
  rcases honly' hc with hb | hmem
  · rcases honly hb with ha | hmem
    · exact .inl ha
    · exact .inr (List.mem_append_left _ hmem)
  · exact .inr (List.mem_append_right _ hmem)

theorem addsNames_put (scope : Scope) (name : String) (value : Value) :
    AddsNames [name] scope (scope.put name value) := by
  intro other
  rw [contains_put]
  constructor
  · intro h
    simp [h]
  · intro h
    rcases Bool.or_eq_true _ _ ▸ h with h | h
    · exact .inr (by simpa using h)
    · exact .inl h

end Scope

namespace ScopeStack

variable {s t u : ScopeStack}

/-! ## What an assignment does -/

/-- No frame of the list binds the name. -/
def Unbound (name : String) (frames : List Scope) : Prop :=
  ∀ frame ∈ frames, frame.contains name = false

/-- The frames split at the nearest one that binds the name. -/
theorem setInFrames?_eq_some {name : String} {value : Value}
    {frames changed : List Scope}
    (h : setInFrames? name value frames = some changed) :
    ∃ inner frame outer, frames = inner ++ frame :: outer ∧
      Unbound name inner ∧ frame.contains name = true ∧
      changed = inner ++ frame.put name value :: outer := by
  induction frames generalizing changed with
  | nil => simp [setInFrames?] at h
  | cons frame outer ih =>
      by_cases hframe : frame.contains name = true
      · simp only [setInFrames?, hframe, if_true, Option.some.injEq] at h
        exact ⟨[], frame, outer, rfl, by simp [Unbound], hframe, h.symm⟩
      · simp only [setInFrames?, hframe, Bool.false_eq_true, if_false,
          Option.map_eq_some_iff] at h
        obtain ⟨rest, hrest, rfl⟩ := h
        obtain ⟨inner, found, outer', rfl, hinner, hfound, rfl⟩ := ih hrest
        refine ⟨frame :: inner, found, outer', rfl, ?_, hfound, rfl⟩
        exact List.forall_mem_cons.2 ⟨by simpa using hframe, hinner⟩

theorem setInFrames?_eq_none {name : String} {value : Value}
    {frames : List Scope} (h : setInFrames? name value frames = none) :
    Unbound name frames := by
  induction frames with
  | nil => simp [Unbound]
  | cons frame outer ih =>
      by_cases hframe : frame.contains name = true
      · simp [setInFrames?, hframe] at h
      · simp only [setInFrames?, hframe, Bool.false_eq_true, if_false,
          Option.map_eq_none_iff] at h
        exact List.forall_mem_cons.2 ⟨by simpa using hframe, ih h⟩

/-- An assignment changes the nearest frame that binds the name, or the global
binding if no frame does, or declares the name if it is not bound at all. -/
theorem set_cases (s : ScopeStack) (name : String) (value : Value) :
    (∃ inner frame outer, s.frames = inner ++ frame :: outer ∧
      Unbound name inner ∧ frame.contains name = true ∧
      s.set name value =
        ⟨s.globals, inner ++ frame.put name value :: outer⟩) ∨
    (Unbound name s.frames ∧ s.globals.contains name = true ∧
      s.set name value = ⟨s.globals.put name value, s.frames⟩) ∨
    (Unbound name s.frames ∧ s.globals.contains name = false ∧
      s.set name value = s.declare name value) := by
  cases hset : setInFrames? name value s.frames with
  | some changed =>
      obtain ⟨inner, frame, outer, hframes, hinner, hframe, rfl⟩ :=
        setInFrames?_eq_some hset
      exact .inl ⟨inner, frame, outer, hframes, hinner, hframe, by
        simp only [set, hset]⟩
  | none =>
      have hunbound := setInFrames?_eq_none hset
      cases hglobals : s.globals.contains name with
      | true => exact .inr (.inl ⟨hunbound, rfl, by simp [set, hset, hglobals]⟩)
      | false =>
          exact .inr (.inr ⟨hunbound, rfl, by simp [set, hset, hglobals]⟩)

/-! ## Bound names -/

/-- Both stacks have the same number of frames, and their scopes bind the same
names. -/
structure SameNames (s t : ScopeStack) : Prop where
  globals : s.globals.SameNames t.globals
  frames : List.Forall₂ Scope.SameNames s.frames t.frames

/-- The innermost scope may bind some of `names` in addition; apart from that
the scopes bind the same names. -/
inductive AddsNames (names : List String) : ScopeStack → ScopeStack → Prop
  | toGlobals {a b : Scope} (h : a.AddsNames names b) :
      AddsNames names ⟨a, []⟩ ⟨b, []⟩
  | toFrame {a b frame frame' : Scope} {outer outer' : List Scope}
      (hglobals : a.SameNames b) (h : frame.AddsNames names frame')
      (houter : List.Forall₂ Scope.SameNames outer outer') :
      AddsNames names ⟨a, frame :: outer⟩ ⟨b, frame' :: outer'⟩

theorem forall₂_sameNames_refl (frames : List Scope) :
    List.Forall₂ Scope.SameNames frames frames :=
  List.forall₂_same.2 fun frame _ => .refl frame

theorem forall₂_sameNames_trans {as bs cs : List Scope}
    (h : List.Forall₂ Scope.SameNames as bs)
    (h' : List.Forall₂ Scope.SameNames bs cs) :
    List.Forall₂ Scope.SameNames as cs := by
  induction h generalizing cs with
  | nil =>
      cases h'
      exact .nil
  | cons hhead _ ih =>
      cases h' with
      | cons hhead' htail' => exact .cons (hhead.trans hhead') (ih htail')

theorem SameNames.refl (s : ScopeStack) : SameNames s s :=
  ⟨.refl _, forall₂_sameNames_refl _⟩

theorem SameNames.addsNames (h : SameNames s t) (names : List String) :
    AddsNames names s t := by
  obtain ⟨a, frames⟩ := s
  obtain ⟨b, frames'⟩ := t
  obtain ⟨hglobals, hframes⟩ := h
  cases hframes with
  | nil => exact .toGlobals (hglobals.addsNames names)
  | cons hframe houter =>
      exact .toFrame hglobals (hframe.addsNames names) houter

theorem AddsNames.sameNames (h : AddsNames [] s t) : SameNames s t := by
  cases h with
  | toGlobals h => exact ⟨h.sameNames, .nil⟩
  | toFrame hglobals h houter => exact ⟨hglobals, .cons h.sameNames houter⟩

theorem AddsNames.trans {names names' : List String}
    (h : AddsNames names s t) (h' : AddsNames names' t u) :
    AddsNames (names ++ names') s u := by
  cases h with
  | toGlobals h =>
      cases h' with
      | toGlobals h' => exact .toGlobals (h.trans h')
  | toFrame hglobals h houter =>
      cases h' with
      | toFrame hglobals' h' houter' =>
          exact .toFrame (hglobals.trans hglobals') (h.trans h')
            (forall₂_sameNames_trans houter houter')

theorem addsNames_declare (s : ScopeStack) (name : String) (value : Value) :
    AddsNames [name] s (s.declare name value) := by
  obtain ⟨globals, frames⟩ := s
  cases frames with
  | nil => exact .toGlobals (globals.addsNames_put name value)
  | cons frame outer =>
      exact .toFrame (.refl _) (frame.addsNames_put name value)
        (forall₂_sameNames_refl outer)

/-- An assignment adds at most its target, to the innermost scope. -/
theorem addsNames_set (s : ScopeStack) (name : String) (value : Value) :
    AddsNames [name] s (s.set name value) := by
  rcases set_cases s name value with
    ⟨inner, frame, outer, hframes, -, hframe, heq⟩ | ⟨-, hglobals, heq⟩ |
      ⟨-, -, heq⟩
  · have hsame : SameNames s (s.set name value) := by
      rw [heq]
      refine ⟨.refl _, ?_⟩
      rw [hframes]
      exact List.rel_append (forall₂_sameNames_refl inner)
        (.cons (Scope.sameNames_put value hframe)
          (forall₂_sameNames_refl outer))
    exact hsame.addsNames _
  · have hsame : SameNames s (s.set name value) := by
      rw [heq]
      exact ⟨Scope.sameNames_put value hglobals, forall₂_sameNames_refl _⟩
    exact hsame.addsNames _
  · rw [heq]
    exact addsNames_declare s name value

/-- What was added to a frame is gone when the frame is dropped. -/
theorem AddsNames.pop {names : List String} {frame : Scope}
    (h : AddsNames names ⟨s.globals, frame :: s.frames⟩ t) :
    SameNames s ⟨t.globals, t.frames.tail⟩ := by
  cases h with
  | toFrame hglobals _ houter => exact ⟨hglobals, houter⟩

/-! ## Hidden bindings -/

/-- A frame in front of the `j`th binds the name. -/
def Hidden (frames : List Scope) (j : Nat) (name : String) : Prop :=
  ∃ i < j, ∃ inner, frames[i]? = some inner ∧ inner.contains name = true

/-- What the `j`th frame binds the name to. -/
def valueAt (frames : List Scope) (j : Nat) (name : String) : Option Value :=
  frames[j]?.bind fun frame => frame.get? name

/-- Bindings that an inner frame hides are the same in both. -/
def KeepsShadowed (frames frames' : List Scope) : Prop :=
  ∀ j name, Hidden frames j name → valueAt frames' j name = valueAt frames j name

theorem KeepsShadowed.refl (frames : List Scope) :
    KeepsShadowed frames frames := fun _ _ _ => rfl

theorem hidden_cons {frame : Scope} {frames : List Scope} {j : Nat}
    {name : String} :
    Hidden (frame :: frames) (j + 1) name ↔
      frame.contains name = true ∨ Hidden frames j name := by
  constructor
  · rintro ⟨i, hi, inner, hinner, hname⟩
    cases i with
    | zero =>
        obtain rfl : frame = inner := by simpa using hinner
        exact .inl hname
    | succ i => exact .inr ⟨i, by omega, inner, by simpa using hinner, hname⟩
  · rintro (hname | ⟨i, hi, inner, hinner, hname⟩)
    · exact ⟨0, by omega, frame, rfl, hname⟩
    · exact ⟨i + 1, by omega, inner, by simpa using hinner, hname⟩

theorem not_hidden_zero {frames : List Scope} {name : String} :
    ¬Hidden frames 0 name := by
  rintro ⟨i, hi, -⟩
  omega

theorem valueAt_put_of_ne {name other : String} (h : other ≠ name)
    (inner : List Scope) (frame : Scope) (value : Value) (outer : List Scope)
    (j : Nat) :
    valueAt (inner ++ frame.put name value :: outer) j other =
      valueAt (inner ++ frame :: outer) j other := by
  induction inner generalizing j with
  | nil =>
      cases j with
      | zero => exact Scope.get?_put_of_ne frame value h
      | succ j => rfl
  | cons first inner ih =>
      cases j with
      | zero => rfl
      | succ j => exact ih j

/-- Changing the nearest binding of a name leaves the hidden ones alone. -/
theorem keepsShadowed_put {name : String} {inner : List Scope}
    (h : Unbound name inner) (frame : Scope) (value : Value)
    (outer : List Scope) :
    KeepsShadowed (inner ++ frame :: outer)
      (inner ++ frame.put name value :: outer) := by
  intro j other hhidden
  by_cases hother : other = name
  · subst hother
    -- no frame up to the changed one hides the name from it
    induction inner generalizing j with
    | nil =>
        cases j with
        | zero => exact absurd hhidden not_hidden_zero
        | succ j => rfl
    | cons first inner ih =>
        obtain ⟨hfirst, hinner⟩ := List.forall_mem_cons.1 h
        cases j with
        | zero => rfl
        | succ j =>
            have hrest := (hidden_cons.1 hhidden).resolve_left (by simp [hfirst])
            exact ih j hrest hinner
  · exact valueAt_put_of_ne hother inner frame value outer j

theorem keepsShadowed_declare (s : ScopeStack) (name : String)
    (value : Value) : KeepsShadowed s.frames (s.declare name value).frames := by
  obtain ⟨globals, frames⟩ := s
  cases frames with
  | nil => exact .refl _
  | cons frame outer =>
      exact @keepsShadowed_put name [] (by simp [Unbound]) frame value outer

/-- An assignment leaves hidden bindings alone. -/
theorem keepsShadowed_set (s : ScopeStack) (name : String) (value : Value) :
    KeepsShadowed s.frames (s.set name value).frames := by
  rcases set_cases s name value with
    ⟨inner, frame, outer, hframes, hinner, -, heq⟩ | ⟨-, -, heq⟩ |
      ⟨-, -, heq⟩
  · rw [heq, hframes]
    exact keepsShadowed_put hinner frame value outer
  · rw [heq]
    exact .refl _
  · rw [heq]
    exact keepsShadowed_declare s name value

theorem KeepsShadowed.pop {frame : Scope} {frames frames' : List Scope}
    (h : KeepsShadowed (frame :: frames) frames') :
    KeepsShadowed frames frames'.tail := by
  intro j name hhidden
  have hvalue := h (j + 1) name (hidden_cons.2 (.inr hhidden))
  cases frames' with
  | nil => exact hvalue
  | cons frame' frames' => exact hvalue

theorem hidden_of_forall₂ {frames frames' : List Scope}
    (h : List.Forall₂ Scope.SameNames frames frames') {j : Nat}
    {name : String} (hhidden : Hidden frames j name) :
    Hidden frames' j name := by
  induction h generalizing j with
  | nil => exact hhidden
  | cons hframe _ ih =>
      cases j with
      | zero => exact absurd hhidden not_hidden_zero
      | succ j =>
          rw [hidden_cons] at hhidden ⊢
          rw [hframe name]
          exact hhidden.imp_right ih

/-- No binding comes into sight. -/
theorem AddsNames.hidden {names : List String} (h : AddsNames names s t)
    {j : Nat} {name : String} (hhidden : Hidden s.frames j name) :
    Hidden t.frames j name := by
  cases h with
  | toGlobals => exact hhidden
  | toFrame _ hframe houter =>
      cases j with
      | zero => exact absurd hhidden not_hidden_zero
      | succ j =>
          rw [hidden_cons] at hhidden ⊢
          exact hhidden.imp (hframe name).1 (hidden_of_forall₂ houter)

/-! ## Both together -/

/-- What evaluation does to a stack, where `names` are assigned to in its
innermost scope. -/
structure Evolves (names : List String) (s t : ScopeStack) : Prop where
  addsNames : AddsNames names s t
  keepsShadowed : KeepsShadowed s.frames t.frames

theorem Evolves.refl (names : List String) (s : ScopeStack) :
    Evolves names s s :=
  ⟨(SameNames.refl s).addsNames names, .refl _⟩

theorem Evolves.trans {names names' : List String} (h : Evolves names s t)
    (h' : Evolves names' t u) : Evolves (names ++ names') s u := by
  refine ⟨h.addsNames.trans h'.addsNames, fun j name hhidden => ?_⟩
  rw [h'.keepsShadowed j name (h.addsNames.hidden hhidden)]
  exact h.keepsShadowed j name hhidden

theorem Evolves.weaken (h : Evolves [] s t) (names : List String) :
    Evolves names s t :=
  ⟨h.addsNames.sameNames.addsNames names, h.keepsShadowed⟩

theorem evolves_declare (s : ScopeStack) (name : String) (value : Value) :
    Evolves [name] s (s.declare name value) :=
  ⟨addsNames_declare s name value, keepsShadowed_declare s name value⟩

theorem evolves_set (s : ScopeStack) (name : String) (value : Value) :
    Evolves [name] s (s.set name value) :=
  ⟨addsNames_set s name value, keepsShadowed_set s name value⟩

/-- A frame that is added, used and dropped leaves no trace. -/
theorem Evolves.pop {names : List String} {frame : Scope}
    (h : Evolves names ⟨s.globals, frame :: s.frames⟩ t) :
    Evolves [] s ⟨t.globals, t.frames.tail⟩ :=
  ⟨h.addsNames.pop.addsNames [], h.keepsShadowed.pop⟩

/-- A caller has its frames back behind a call, and the globals bind what they
bound. -/
theorem Evolves.giveBack {names : List String} {frame : Scope}
    (h : Evolves names ⟨s.globals, [frame]⟩ t) :
    Evolves [] s ⟨t.globals, s.frames⟩ := by
  have hsame : SameNames s ⟨t.globals, s.frames⟩ := by
    cases h.addsNames with
    | toFrame hglobals _ _ => exact ⟨hglobals, forall₂_sameNames_refl _⟩
  exact ⟨hsame.addsNames [], .refl _⟩

end ScopeStack

end TextShell
