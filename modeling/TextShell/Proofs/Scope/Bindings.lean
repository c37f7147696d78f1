import TextShell.Proofs.Scope

/-!
# Stacks of bindings

Frames keep the bindings of one level together.  A table of bindings keeps those
of one name together: for each name it has a stack of bindings, the latest
first, each with the level it was made on.  The globals are level zero, and a
frame is one level above what it was added to.

The two are the same to whoever uses them.  `BindingTable.ofStack` turns frames
into a table, and every operation on the frames is the operation of the same
name on the table; `ofStack_set`, `ofStack_declare` and `ofStack_pop` say this of
one operation, and `observe_ofStack` of a sequence of them.

## Main results

* `mem_ofStack_bindings` — the table holds the bindings of the frames and no
  others.
* `observe_ofStack` — frames and table answer alike, operation after operation.
* `set_changes_nearest` — an assignment changes one binding, the nearest.
* `deep_binding_is_binding_stacks` — both together, with what an assignment means
  for the frames that are dropped after it.
-/

namespace TextShell

/-- What can be asked of scopes. -/
inductive ScopeOperation where
  | push
  | pop
  | set (name : String) (value : Value)
  | declare (name : String) (value : Value)
  | get (name : String)
  | has (name : String)
deriving Repr, DecidableEq, Inhabited

/-- What scopes answer. -/
inductive ScopeAnswer where
  | done
  | failed (fault : Fault)
  | value (found : Option Value)
  | visible (holds : Bool)
deriving Repr, DecidableEq, Inhabited

/-! ## Scopes under operations -/

namespace ScopeStack

/-- One operation.  One that fails changes nothing. -/
def apply (s : ScopeStack) : ScopeOperation → ScopeAnswer × ScopeStack
  | .push => (.done, s.push)
  | .pop =>
    match s.pop with
    | .ok t => (.done, t)
    | .error fault => (.failed fault, s)
  | .set name value => (.done, s.set name value)
  | .declare name value => (.done, s.declare name value)
  | .get name => (.value (s.get? name), s)
  | .has name => (.visible (s.contains name), s)

/-- The answers to operations one after the other, each with the depth behind it. -/
def observe (s : ScopeStack) : List ScopeOperation → List (ScopeAnswer × Nat)
  | [] => []
  | op :: rest => ((s.apply op).1, (s.apply op).2.depth) :: (s.apply op).2.observe rest

/-- Drops this many frames. -/
def popMany (s : ScopeStack) : Nat → Except Fault ScopeStack
  | 0 => .ok s
  | count + 1 => do (← s.pop).popMany count

/-- The scope of a level: the globals, then the frames from the outermost on. -/
def scopeAt? (s : ScopeStack) : Nat → Option Scope
  | 0 => some s.globals
  | level + 1 => s.frames.reverse[level]?

/-- What a name is bound to on a level. -/
def boundAt? (s : ScopeStack) (level : Nat) (name : String) : Option Value :=
  (s.scopeAt? level).bind fun scope => scope.get? name

end ScopeStack

/-! ## Tables of bindings -/

/-- For each name its bindings, the latest first, each with its level. -/
structure BindingTable where
  depth : Nat := 0
  bindings : String → List (Nat × Value) := fun _ => []

namespace BindingTable

/-- Replaces the bindings of one name. -/
def update (t : BindingTable) (name : String) (bindings : List (Nat × Value)) : BindingTable :=
  { t with bindings := fun other => if other = name then bindings else t.bindings other }

/-- The value of the latest binding. -/
def get? (t : BindingTable) (name : String) : Option Value :=
  (t.bindings name).head?.map Prod.snd

/-- The name is bound. -/
def contains (t : BindingTable) (name : String) : Bool := (t.get? name).isSome

/-- Begins a level. -/
def push (t : BindingTable) : BindingTable := { t with depth := t.depth + 1 }

/-- Ends a level, and with it all its bindings. -/
def pop (t : BindingTable) : Except Fault BindingTable :=
  match t.depth with
  | 0 => .error .emptyScopeStack
  | outer + 1 =>
    .ok ⟨outer, fun name => (t.bindings name).filter fun binding => binding.1 != outer + 1⟩

/-- Changes the latest binding, or makes one on the current level if there is none. -/
def set (t : BindingTable) (name : String) (value : Value) : BindingTable :=
  t.update name <|
    match t.bindings name with
    | [] => [(t.depth, value)]
    | (level, _) :: outer => (level, value) :: outer

/-- Binds the name on the current level: a binding of that level is changed, any
other one is covered. -/
def declare (t : BindingTable) (name : String) (value : Value) : BindingTable :=
  t.update name <|
    match t.bindings name with
    | [] => [(t.depth, value)]
    | (level, held) :: outer =>
      if level = t.depth then (level, value) :: outer
      else (t.depth, value) :: (level, held) :: outer

/-- One operation.  One that fails changes nothing. -/
def apply (t : BindingTable) : ScopeOperation → ScopeAnswer × BindingTable
  | .push => (.done, t.push)
  | .pop =>
    match t.pop with
    | .ok u => (.done, u)
    | .error fault => (.failed fault, t)
  | .set name value => (.done, t.set name value)
  | .declare name value => (.done, t.declare name value)
  | .get name => (.value (t.get? name), t)
  | .has name => (.visible (t.contains name), t)

/-- The answers to operations one after the other, each with the depth behind it. -/
def observe (t : BindingTable) : List ScopeOperation → List (ScopeAnswer × Nat)
  | [] => []
  | op :: rest => ((t.apply op).1, (t.apply op).2.depth) :: (t.apply op).2.observe rest

/-! ## The table of frames -/

/-- The binding that a scope of this level has for a name, if it has one. -/
def ofScope (name : String) (level : Nat) (scope : Scope) : List (Nat × Value) :=
  (scope.get? name).toList.map fun value => (level, value)

/-- The bindings of a name in frames, of which the innermost comes first. -/
def ofFrames (name : String) : List Scope → List (Nat × Value)
  | [] => []
  | frame :: outer => ofScope name (outer.length + 1) frame ++ ofFrames name outer

/-- The table that holds the bindings of a stack. -/
def ofStack (s : ScopeStack) : BindingTable where
  depth := s.depth
  bindings name := ofFrames name s.frames ++ ofScope name 0 s.globals

variable {s : ScopeStack} {name other : String} {value : Value} {frames inner outer : List Scope}
  {frame scope : Scope} {level : Nat}

theorem ofScope_of_not_contains (h : scope.contains name = false) :
    ofScope name level scope = [] := by
  have hnone : scope.get? name = none := by simpa [Scope.contains] using h
  simp [ofScope, hnone]

theorem ofScope_of_contains (level : Nat) (h : scope.contains name = true) :
    ∃ held, scope.get? name = some held ∧ ofScope name level scope = [(level, held)] := by
  obtain ⟨held, hheld⟩ := Option.isSome_iff_exists.1 h
  exact ⟨held, hheld, by simp [ofScope, hheld]⟩

@[simp] theorem ofScope_put_self :
    ofScope name level (scope.put name value) = [(level, value)] := by
  simp [ofScope]

theorem ofScope_put_of_ne (h : other ≠ name) :
    ofScope other level (scope.put name value) = ofScope other level scope := by
  simp [ofScope, Scope.get?_put_of_ne scope value h]

theorem ofFrames_append_of_unbound (h : ScopeStack.Unbound name inner) :
    ofFrames name (inner ++ outer) = ofFrames name outer := by
  induction inner with
  | nil => rfl
  | cons first inner ih =>
      obtain ⟨hfirst, hinner⟩ := List.forall_mem_cons.1 h
      rw [List.cons_append, ofFrames, ofScope_of_not_contains hfirst, List.nil_append, ih hinner]

theorem ofFrames_of_unbound (h : ScopeStack.Unbound name frames) : ofFrames name frames = [] := by
  have happend : ofFrames name (frames ++ []) = ofFrames name [] :=
    ofFrames_append_of_unbound h
  rwa [List.append_nil] at happend

/-- Another name has the bindings it had. -/
theorem ofFrames_put_of_ne (h : other ≠ name) :
    ofFrames other (inner ++ frame.put name value :: outer) =
      ofFrames other (inner ++ frame :: outer) := by
  induction inner with
  | nil => simp only [List.nil_append, ofFrames, ofScope_put_of_ne h]
  | cons first inner ih =>
      simp only [List.cons_append, ofFrames, ih, List.length_append, List.length_cons]

/-- The levels of frames are those above the globals, up to the innermost. -/
theorem level_of_mem_ofFrames {binding : Nat × Value} (h : binding ∈ ofFrames name frames) :
    1 ≤ binding.1 ∧ binding.1 ≤ frames.length := by
  induction frames with
  | nil => simp [ofFrames] at h
  | cons frame outer ih =>
      rcases List.mem_append.1 h with h | h
      · obtain ⟨held, -, rfl⟩ := List.mem_map.1 h
        simp
      · have := ih h
        simp only [List.length_cons]
        omega

/-- What is bound outside the innermost frame is bound on another level. -/
theorem level_of_mem_outer {binding : Nat × Value}
    (h : binding ∈ ofFrames name outer ++ ofScope name 0 scope) : binding.1 < outer.length + 1 := by
  rcases List.mem_append.1 h with h | h
  · have := level_of_mem_ofFrames h
    omega
  · obtain ⟨held, -, rfl⟩ := List.mem_map.1 h
    simp

/-! ## One operation -/

theorem get?_ofStack (s : ScopeStack) (name : String) : (ofStack s).get? name = s.get? name := by
  have hframes : ∀ frames rest, (ofFrames name frames ++ rest).head?.map Prod.snd =
      (ScopeStack.getInFrames? name frames).or (rest.head?.map Prod.snd) := by
    intro frames rest
    induction frames with
    | nil => rfl
    | cons frame outer ih =>
        rw [ofFrames, ScopeStack.getInFrames?, List.append_assoc]
        cases hget : frame.get? name with
        | none => simpa [ofScope, hget] using ih
        | some held => simp [ofScope, hget]
  have hglobals : (ofScope name 0 s.globals).head?.map Prod.snd = s.globals.get? name := by
    cases hget : s.globals.get? name <;> simp [ofScope, hget]
  rw [get?, ofStack, hframes, hglobals, ScopeStack.get?]
  cases ScopeStack.getInFrames? name s.frames <;> rfl

theorem contains_ofStack (s : ScopeStack) (name : String) :
    (ofStack s).contains name = s.contains name := by
  rw [contains, get?_ofStack, ScopeStack.contains]

/-- Two tables are equal if they have the same depth and bindings. -/
theorem eq_of_bindings {t u : BindingTable} (hdepth : t.depth = u.depth)
    (hbindings : ∀ name, t.bindings name = u.bindings name) : t = u := by
  obtain ⟨depth, bindings⟩ := t
  obtain ⟨depth', bindings'⟩ := u
  obtain rfl : depth = depth' := hdepth
  obtain rfl : bindings = bindings' := funext hbindings
  rfl

theorem ofStack_push (s : ScopeStack) : ofStack s.push = (ofStack s).push := by
  refine eq_of_bindings rfl fun name => ?_
  have hempty : ofScope name (s.frames.length + 1) {} = [] := rfl
  simp only [ofStack, push, ScopeStack.push, ofFrames, hempty, List.nil_append]

theorem ofStack_pop (s : ScopeStack) : (ofStack s).pop = s.pop.map ofStack := by
  obtain ⟨globals, frames⟩ := s
  cases frames with
  | nil => rfl
  | cons frame outer =>
      refine congrArg Except.ok (eq_of_bindings rfl fun name => ?_)
      -- the bindings of the frame go, those below have other levels
      have hframe : (ofScope name (outer.length + 1) frame).filter
          (fun binding => binding.1 != outer.length + 1) = [] := by
        rw [List.filter_eq_nil_iff]
        intro binding hbinding
        obtain ⟨held, -, rfl⟩ := List.mem_map.1 hbinding
        simp
      have houter : (ofFrames name outer ++ ofScope name 0 globals).filter
          (fun binding => binding.1 != outer.length + 1) =
          ofFrames name outer ++ ofScope name 0 globals := by
        rw [List.filter_eq_self]
        intro binding hbinding
        have := level_of_mem_outer hbinding
        simp only [bne_iff_ne]
        omega
      simp only [ofStack, ScopeStack.depth, List.length_cons, ofFrames, List.append_assoc]
      rw [List.filter_append, hframe, houter, List.nil_append]

theorem ofStack_declare (s : ScopeStack) (name : String) (value : Value) :
    ofStack (s.declare name value) = (ofStack s).declare name value := by
  obtain ⟨globals, frames⟩ := s
  cases frames with
  | nil =>
      refine eq_of_bindings rfl fun other => ?_
      simp only [ofStack, declare, update, ScopeStack.declare, ScopeStack.depth, ofFrames,
        List.nil_append, List.length_nil]
      by_cases hother : other = name
      · subst hother
        cases hbound : globals.get? other <;> simp [ofScope, hbound]
      · rw [if_neg hother, ofScope_put_of_ne hother]
  | cons frame outer =>
      refine eq_of_bindings rfl fun other => ?_
      simp only [ofStack, declare, update, ScopeStack.declare, ScopeStack.depth, ofFrames,
        List.length_cons, List.append_assoc]
      by_cases hother : other = name
      · subst hother
        rw [if_pos rfl, ofScope_put_self]
        cases hbound : frame.contains other with
        | true =>
            obtain ⟨held, -, hframe⟩ := ofScope_of_contains (outer.length + 1) hbound
            simp [hframe]
        | false =>
            rw [ofScope_of_not_contains hbound, List.nil_append]
            cases hrest : ofFrames other outer ++ ofScope other 0 globals with
            | nil => simp
            | cons binding rest =>
                -- the latest binding is one of an outer level, and is covered
                have hlevel : binding.1 < outer.length + 1 :=
                  level_of_mem_outer (hrest ▸ List.mem_cons_self)
                have hne : binding.1 ≠ outer.length + 1 := by omega
                simp [hne]
      · rw [if_neg hother, ofScope_put_of_ne hother]

theorem ofStack_set (s : ScopeStack) (name : String) (value : Value) :
    ofStack (s.set name value) = (ofStack s).set name value := by
  rcases ScopeStack.set_cases s name value with
    ⟨inner, frame, outer, hframes, hinner, hframe, heq⟩ | ⟨hunbound, hglobals, heq⟩ |
      ⟨hunbound, hglobals, heq⟩
  · rw [heq]
    refine eq_of_bindings (by simp [ofStack, set, update, ScopeStack.depth, hframes])
      fun other => ?_
    simp only [ofStack, set, update, hframes]
    by_cases hother : other = name
    · subst hother
      obtain ⟨held, -, hheld⟩ := ofScope_of_contains (outer.length + 1) hframe
      rw [if_pos rfl, ofFrames_append_of_unbound hinner, ofFrames_append_of_unbound hinner,
        ofFrames, ofFrames, hheld, ofScope_put_self]
      rfl
    · rw [if_neg hother, ofFrames_put_of_ne hother]
  · rw [heq]
    refine eq_of_bindings rfl fun other => ?_
    simp only [ofStack, set, update]
    by_cases hother : other = name
    · subst hother
      obtain ⟨held, -, hheld⟩ := ofScope_of_contains 0 hglobals
      rw [if_pos rfl, ofFrames_of_unbound hunbound, hheld, ofScope_put_self]
      rfl
    · rw [if_neg hother, ofScope_put_of_ne hother]
  · -- without a binding, both declare the name
    rw [heq, ofStack_declare]
    have hnone : (ofStack s).bindings name = [] := by
      simp only [ofStack, ofFrames_of_unbound hunbound, ofScope_of_not_contains hglobals,
        List.append_nil]
    rw [declare, set, hnone]

/-! ## Sequences of operations -/

/-- One operation is answered alike, and leads to the same bindings. -/
theorem apply_ofStack (s : ScopeStack) (op : ScopeOperation) :
    (ofStack s).apply op = ((s.apply op).1, ofStack (s.apply op).2) := by
  cases op with
  | push => simp only [apply, ScopeStack.apply, ofStack_push]
  | pop =>
      simp only [apply, ScopeStack.apply, ofStack_pop]
      cases s.pop <;> rfl
  | set name value => simp only [apply, ScopeStack.apply, ofStack_set]
  | declare name value => simp only [apply, ScopeStack.apply, ofStack_declare]
  | get name => simp only [apply, ScopeStack.apply, get?_ofStack]
  | has name => simp only [apply, ScopeStack.apply, contains_ofStack]

/-- Frames and table answer alike, operation after operation. -/
theorem observe_ofStack (s : ScopeStack) (ops : List ScopeOperation) :
    (ofStack s).observe ops = s.observe ops := by
  induction ops generalizing s with
  | nil => rfl
  | cons op rest ih =>
      rw [observe, ScopeStack.observe, apply_ofStack]
      exact congrArg _ (ih (s.apply op).2)

/-! ## The bindings of a level -/

theorem mem_ofScope {binding : Nat × Value} :
    binding ∈ ofScope name level scope ↔
      binding.1 = level ∧ scope.get? name = some binding.2 := by
  obtain ⟨level', held⟩ := binding
  simp only [ofScope, List.mem_map, Option.mem_toList, Prod.mk.injEq]
  constructor
  · rintro ⟨value, hvalue, rfl, rfl⟩
    exact ⟨rfl, hvalue⟩
  · rintro ⟨rfl, hvalue⟩
    exact ⟨held, hvalue, rfl, rfl⟩

theorem mem_ofFrames :
    (level + 1, value) ∈ ofFrames name frames ↔
      (frames.reverse[level]?.bind fun scope => scope.get? name) = some value := by
  induction frames with
  | nil => simp [ofFrames]
  | cons frame outer ih =>
      rw [ofFrames, List.mem_append, mem_ofScope, ih, List.reverse_cons]
      rcases Nat.lt_trichotomy level outer.length with hlt | heq | hgt
      · have hne : level ≠ outer.length := by omega
        rw [List.getElem?_append_left (by simpa using hlt)]
        simp [hne]
      · subst heq
        rw [List.getElem?_append_right (by simp)]
        simp
      · have hne : level ≠ outer.length := by omega
        have hout : outer.reverse.length ≤ level := by simp; omega
        have hpast : [frame].length ≤ level - outer.reverse.length := by simp; omega
        rw [List.getElem?_append_right hout, List.getElem?_eq_none hpast,
          List.getElem?_eq_none hout]
        simp [hne]

/-- The table holds the bindings of the scopes and no others. -/
theorem mem_ofStack_bindings :
    (level, value) ∈ (ofStack s).bindings name ↔ s.boundAt? level name = some value := by
  cases level with
  | zero =>
      have hframes : (0, value) ∉ ofFrames name s.frames := by
        intro h
        have := level_of_mem_ofFrames h
        omega
      simp only [ofStack, List.mem_append, hframes, false_or, mem_ofScope, true_and]
      rfl
  | succ level =>
      have hglobals : (level + 1, value) ∉ ofScope name 0 s.globals := by
        simp [mem_ofScope]
      simp only [ofStack, List.mem_append, hglobals, or_false, mem_ofFrames]
      rfl

end BindingTable

namespace ScopeStack

open BindingTable

variable {s : ScopeStack} {name : String} {value : Value}

/-- The levels of a name's bindings go down from the latest on. -/
theorem pairwise_bindings (s : ScopeStack) (name : String) :
    ((ofStack s).bindings name).Pairwise fun a b => b.1 < a.1 := by
  obtain ⟨globals, frames⟩ := s
  induction frames with
  | nil =>
      cases hbound : globals.get? name <;> simp [ofStack, ofFrames, ofScope, hbound]
  | cons frame outer ih =>
      simp only [ofStack, ofFrames, List.append_assoc] at ih ⊢
      cases hbound : frame.get? name with
      | none => simpa [ofScope, hbound] using ih
      | some held =>
          rw [ofScope, hbound]
          refine List.pairwise_cons.2 ⟨fun binding hbinding => ?_, ih⟩
          exact level_of_mem_outer hbinding

/-- The scopes bind the same where their tables do. -/
theorem boundAt?_congr {t : ScopeStack} {level : Nat}
    (h : (ofStack s).bindings name = (ofStack t).bindings name) :
    s.boundAt? level name = t.boundAt? level name := by
  refine Option.ext fun value => ?_
  rw [← mem_ofStack_bindings, ← mem_ofStack_bindings, h]

/-- The binding that an assignment is about: the nearest one, or none. -/
inductive Target (s : ScopeStack) (name : String) (level : Nat) : Prop
  | nearest {held : Value} (hget : s.get? name = some held)
      (hheld : s.boundAt? level name = some held)
      (hinner : ∀ inner, level < inner → s.boundAt? inner name = none)
  | fresh (hget : s.get? name = none) (hdepth : level = s.depth)

/-- An assignment changes one binding, that which a look-up finds, or makes one
on the current level. -/
theorem set_changes_nearest (s : ScopeStack) (name : String) (value : Value) :
    ∃ level, Target s name level ∧ (s.set name value).boundAt? level name = some value ∧
      ∀ level' name', (level', name') ≠ (level, name) →
        (s.set name value).boundAt? level' name' = s.boundAt? level' name' := by
  have hset : ∀ other, (ofStack (s.set name value)).bindings other =
      ((ofStack s).set name value).bindings other := fun other => by rw [ofStack_set]
  have hother : ∀ level' name', name' ≠ name →
      (s.set name value).boundAt? level' name' = s.boundAt? level' name' := by
    intro level' name' hne
    refine boundAt?_congr ?_
    rw [hset, BindingTable.set, update]
    exact if_neg hne
  have hself : (ofStack (s.set name value)).bindings name =
      match (ofStack s).bindings name with
      | [] => [(s.depth, value)]
      | (level, _) :: outer => (level, value) :: outer := by
    rw [hset, BindingTable.set, update]
    exact if_pos rfl
  have hget := get?_ofStack s name
  rw [BindingTable.get?] at hget
  cases hbindings : (ofStack s).bindings name with
  | nil =>
      rw [hbindings] at hself hget
      refine ⟨s.depth, .fresh hget.symm rfl, ?_, ?_⟩
      · rw [← mem_ofStack_bindings, hself]
        exact List.mem_cons_self
      · intro level' name' hne
        by_cases hname : name' = name
        · subst hname
          have hlevel : level' ≠ s.depth := fun h => hne (by rw [h])
          refine Option.ext fun held => ?_
          rw [← mem_ofStack_bindings, ← mem_ofStack_bindings, hself, hbindings]
          simp [hlevel]
        · exact hother level' name' hname
  | cons binding outer =>
      obtain ⟨level, held⟩ := binding
      rw [hbindings] at hself hget
      have hheld : s.boundAt? level name = some held := by
        rw [← mem_ofStack_bindings, hbindings]
        exact List.mem_cons_self
      have hlevels := pairwise_bindings s name
      rw [hbindings, List.pairwise_cons] at hlevels
      refine ⟨level, .nearest hget.symm hheld fun inner hinner => ?_, ?_, ?_⟩
      · -- a binding further in would be of a level below this one
        by_contra hbound
        obtain ⟨held', hheld'⟩ := Option.ne_none_iff_exists'.1 hbound
        rw [← mem_ofStack_bindings, hbindings] at hheld'
        rcases List.mem_cons.1 hheld' with heq | hmem
        · have := (Prod.mk.inj heq).1
          omega
        · have := hlevels.1 _ hmem
          omega
      · rw [← mem_ofStack_bindings, hself]
        exact List.mem_cons_self
      · intro level' name' hne
        by_cases hname : name' = name
        · subst hname
          have hlevel : level' ≠ level := fun h => hne (by rw [h])
          refine Option.ext fun held' => ?_
          rw [← mem_ofStack_bindings, ← mem_ofStack_bindings, hself, hbindings]
          simp [hlevel]
        · exact hother level' name' hname

/-- A level that stays keeps its bindings while frames above it are dropped. -/
theorem popMany_boundAt? {count : Nat} (h : count ≤ s.depth) :
    ∃ t, s.popMany count = .ok t ∧ t.depth + count = s.depth ∧
      ∀ level, level + count ≤ s.depth → ∀ name, t.boundAt? level name = s.boundAt? level name := by
  induction count generalizing s with
  | zero => exact ⟨s, rfl, rfl, fun _ _ _ => rfl⟩
  | succ count ih =>
      obtain ⟨globals, frames⟩ := s
      cases frames with
      | nil => simp [depth] at h
      | cons frame outer =>
          have hdepth : (⟨globals, frame :: outer⟩ : ScopeStack).depth = outer.length + 1 := rfl
          rw [hdepth] at h ⊢
          obtain ⟨t, hpop, htdepth, hbound⟩ := ih (s := ⟨globals, outer⟩) (by
            simp only [depth]
            omega)
          simp only [depth] at htdepth hbound ⊢
          refine ⟨t, hpop, by omega, fun level hlevel name => ?_⟩
          rw [hbound level (by omega)]
          -- the dropped frame is the last one from the outside
          cases level with
          | zero => rfl
          | succ level =>
              have hlt : level < outer.reverse.length := by
                rw [List.length_reverse]
                omega
              simp only [boundAt?, scopeAt?, List.reverse_cons, List.getElem?_append_left hlt]

/-- A look-up finds the binding above which there is none. -/
theorem get?_of_boundAt? {level : Nat} (h : s.boundAt? level name = some value)
    (hinner : ∀ inner, level < inner → s.boundAt? inner name = none) :
    s.get? name = some value := by
  rw [← get?_ofStack, BindingTable.get?]
  rw [← mem_ofStack_bindings] at h
  cases hbindings : (ofStack s).bindings name with
  | nil => simp [hbindings] at h
  | cons binding outer =>
      obtain ⟨level', held⟩ := binding
      have hlevels := pairwise_bindings s name
      rw [hbindings, List.pairwise_cons] at hlevels
      have hhead : s.boundAt? level' name = some held := by
        rw [← mem_ofStack_bindings, hbindings]
        exact List.mem_cons_self
      rw [hbindings] at h
      rcases List.mem_cons.1 h with heq | hmem
      · obtain ⟨-, rfl⟩ := Prod.mk.inj heq
        rfl
      · have hlt : level < level' := hlevels.1 _ hmem
        simp [hinner level' hlt] at hhead

/-- Nothing is bound above the innermost frame. -/
theorem boundAt?_of_depth_lt {level : Nat} (h : s.depth < level) : s.boundAt? level name = none := by
  cases level with
  | zero => omega
  | succ level =>
      have hlength : s.frames.reverse.length ≤ level := by
        rw [List.length_reverse]
        simp only [depth] at h
        omega
      simp only [boundAt?, scopeAt?, List.getElem?_eq_none hlength, Option.bind_none]

/-- Scopes in frames and stacks of bindings for each name are the same thing.
All operations are answered alike, in any order and number.  An assignment
changes exactly one binding, the one that a look-up finds, or makes one on the
current level where there is none; and it is still there when every frame above
the level of that binding has been dropped. -/
theorem deep_binding_is_binding_stacks :
    (∀ (s : ScopeStack) (ops : List ScopeOperation), (ofStack s).observe ops = s.observe ops) ∧
    ∀ (s : ScopeStack) (name : String) (value : Value),
      ∃ level, Target s name level ∧ (s.set name value).boundAt? level name = some value ∧
        (∀ level' name', (level', name') ≠ (level, name) →
          (s.set name value).boundAt? level' name' = s.boundAt? level' name') ∧
        ∀ count, count + level ≤ s.depth →
          ∃ t, (s.set name value).popMany count = .ok t ∧ t.depth + count = s.depth ∧
            t.get? name = some value := by
  refine ⟨observe_ofStack, fun s name value => ?_⟩
  obtain ⟨level, htarget, hvalue, hothers⟩ := set_changes_nearest s name value
  refine ⟨level, htarget, hvalue, hothers, fun count hcount => ?_⟩
  have hdepth : (s.set name value).depth = s.depth :=
    congrArg BindingTable.depth (ofStack_set s name value)
  have hroom : count ≤ (s.set name value).depth := by omega
  obtain ⟨t, hpop, htdepth, hkept⟩ := popMany_boundAt? hroom
  have hlevel : t.boundAt? level name = some value := by
    rw [hkept level (by omega), hvalue]
  refine ⟨t, hpop, by omega, get?_of_boundAt? hlevel fun inner hinner => ?_⟩
  -- what is above is either gone or was unbound before
  by_cases habove : t.depth < inner
  · exact boundAt?_of_depth_lt habove
  · rw [hkept inner (by omega), hothers inner name (by simp; omega)]
    cases htarget with
    | nearest hget hheld hnone => exact hnone inner hinner
    | fresh hget hfresh => omega

end ScopeStack

end TextShell
