import TextShell.Proofs.Program.Follow

/-!
# Rules read the same text wherever it stands

What a rule takes of a source depends on what follows the text, but not on all of it:
between twins, the same text is read and the same element is made of it.  A block ends
in its brace, so that nothing behind it matters.

The statement goes backwards through a rule, as what matters behind a piece is decided
by the pieces behind it: `Carries k S T p q` says that a text of at most `k` characters
that `p` reads in front of the first of two texts related by `T` is read by `q` in
front of the second, and that both are related by `S` with the text in front of them.
There is a rule for every way in which the grammar puts parsers together.

One thing does look arbitrarily far ahead.  A comment that runs to the end of the
source ends its statement at its last `;`, and whether it does run to the end is not
known in the comment.  Texts are `Tame` that leave no such comment open.

## Main results

* `carries_value`, `carries_execution` — values and statements.
* `carries_block`, `carries_functionRule` — blocks and functions, in front of any text.
-/

namespace TextShell

namespace Parser

variable {α β γ δ : Type}

/-! ## Texts in front of related texts -/

/-- What `p` reads in front of the first of two texts that are related by `T`, `q` reads
in front of the second, and the two are then related by `S`. -/
structure Carries (k : Nat) (S T : List Char → List Char → Prop) (view : α → γ)
    (p q : Parser α) : Prop where
  alike : Alike view p q
  carry : ∀ {w y z : List Char} {v : γ}, w.length ≤ k → Tame w y → T y z →
    Reads view p w y v → Reads view q w z v ∧ S (w ++ y) (w ++ z)

namespace Carries

variable {k : Nat} {R S T : List Char → List Char → Prop} {view : α → γ} {view' : β → δ}
  {p q p' q' : Parser α}

theorem mono {S' T' : List Char → List Char → Prop} (h : Carries k S T view p q)
    (hT : ∀ y z, T' y z → T y z) (hS : ∀ y z, S y z → S' y z) :
    Carries k S' T' view p q where
  alike := h.alike
  carry hk htame hyz hreads := by
    obtain ⟨hz, hrel⟩ := h.carry hk htame (hT _ _ hyz) hreads
    exact ⟨hz, hS _ _ hrel⟩

theorem of_le {m : Nat} (h : Carries k S T view p q) (hm : m ≤ k) :
    Carries m S T view p q :=
  ⟨h.alike, fun hk => h.carry (by omega)⟩

/-- What takes something takes more than nothing. -/
theorem of_shortens (hp : Alike view p p) (hshort : Shortens 1 p) : Carries 0 S T view p p where
  alike := hp
  carry hk _ _ hy := by
    have hpos := hy.pos hshort
    omega

theorem pure {a b : α} (h : view a = view b) :
    Carries k T T view (Pure.pure a) (Pure.pure b) where
  alike := .pure h
  carry _ _ hyz hreads := by
    obtain ⟨rfl, rfl⟩ := reads_pure hreads
    exact ⟨Yields.pure h.symm, hyz⟩

/-- What stands behind a text of `d` characters has `d` fewer. -/
theorem bind_of_le {d : Nat} {f g : α → Parser β} (hp : Carries (k + d) S R view p p)
    (hd : ∀ {w r : List Char}, Takes p w r → d ≤ w.length)
    (hf : ∀ a b, view a = view b → Carries k R T view' (f a) (g b)) :
    Carries (k + d) S T view' (p >>= f) (p >>= g) where
  alike := hp.alike.bind fun a b hab => (hf a b hab).alike
  carry hk htame hyz hreads := by
    have hfa (a b : α) (hab : view a = view b) : Alike view' (f a) (f b) :=
      (hf a b hab).alike.both (hf b b rfl).alike
    obtain ⟨w₁, w₂, a, rfl, h₁, h₂⟩ := hp.alike.reads_bind hfa hreads
    have hlen := hd (h₁.mono fun _ _ => trivial)
    rw [List.length_append] at hk
    obtain ⟨-, hrel⟩ := (hf a a rfl).carry (by omega) htame.right hyz h₂
    obtain ⟨h₁', hrel'⟩ := hp.carry (by omega) htame.left hrel h₁
    refine ⟨h₁'.bind fun b hb => ?_, by simpa using hrel'⟩
    exact ((hf a b hb.symm).carry (by omega) htame.right hyz h₂).1

theorem bind {f g : α → Parser β} (hp : Carries k S R view p p)
    (hf : ∀ a b, view a = view b → Carries k R T view' (f a) (g b)) :
    Carries k S T view' (p >>= f) (p >>= g) :=
  hp.bind_of_le (d := 0) (fun _ => Nat.zero_le _) hf

/-- What stands behind a parser that takes something is shorter. -/
theorem bind_succ {f g : α → Parser β} (hp : Carries (k + 1) S R view p p)
    (hshort : Shortens 1 p)
    (hf : ∀ a b, view a = view b → Carries k R T view' (f a) (g b)) :
    Carries (k + 1) S T view' (p >>= f) (p >>= g) :=
  hp.bind_of_le (fun h => h.pos hshort) hf

/-- One parser behind another that has no answer to use. -/
theorem seq {s : Parser Unit} {p q : Parser β} (hs : Carries k S R id s s)
    (hp : Carries k R T view' p q) :
    Carries k S T view' (s >>= fun _ => p) (s >>= fun _ => q) :=
  hs.bind fun _ _ _ => hp

theorem seq_succ {s : Parser Unit} {p q : Parser β} (hs : Carries (k + 1) S R id s s)
    (hshort : Shortens 1 s) (hp : Carries k R T view' p q) :
    Carries (k + 1) S T view' (s >>= fun _ => p) (s >>= fun _ => q) :=
  hs.bind_succ hshort fun _ _ _ => hp

/-- The second alternative is taken where the first refuses, and it must refuse in
front of the second text too. -/
theorem orElse_cases {S' : List Char → List Char → Prop} (hp : Carries k S T view p q)
    (hp' : Carries k S' T view p' q')
    (hrefuses : ∀ {w y z : List Char}, T y z → Takes q' w z → S' (w ++ y) (w ++ z) →
      Refuses p (w ++ y) → Refuses q (w ++ z)) :
    Carries k (fun s t => S s t ∨ S' s t) T view (p <|> p') (q <|> q') where
  alike := hp.alike.orElse hp'.alike
  carry hk htame hyz hreads := by
    rcases (hp.alike.both hp.alike).reads_orElse hreads with hy | ⟨hnone, hy⟩
    · obtain ⟨hz, hrel⟩ := hp.carry hk htame hyz hy
      exact ⟨hz.orElse_left, .inl hrel⟩
    · obtain ⟨hz, hrel⟩ := hp'.carry hk htame hyz hy
      have htakes : Takes q' _ _ := hz.mono fun _ _ => trivial
      exact ⟨Yields.orElse_right (hrefuses hyz htakes hrel hnone) hz, .inr hrel⟩

theorem orElse (hp : Carries k S T view p q) (hp' : Carries k S T view p' q')
    (hrefuses : ∀ {w y z : List Char}, T y z → Takes q' w z → S (w ++ y) (w ++ z) →
      Refuses p (w ++ y) → Refuses q (w ++ z)) :
    Carries k S T view (p <|> p') (q <|> q') :=
  (hp.orElse_cases hp' hrefuses).mono (fun _ _ h => h) fun _ _ h => h.elim id id

theorem take {length? : List Char → Option Nat}
    (h : ∀ {w y z : List Char}, Tame w y → T y z → Takes (take length?) w y →
      Takes (Parser.take length?) w z ∧ S (w ++ y) (w ++ z)) :
    Carries k S T id (Parser.take length?) (Parser.take length?) where
  alike := .take _
  carry _ htame hyz hreads := by
    obtain ⟨hz, hrel⟩ := h htame hyz (hreads.mono fun _ _ => trivial)
    exact ⟨hz.mono fun _ _ => rfl, hrel⟩

theorem element {p : Parser (Tag × List Element)}
    (h : Carries k S T (Prod.map id (List.map Element.unplaced)) p p) :
    Carries k S T Element.unplaced (Grammar.element p) (Grammar.element p) where
  alike := .element h.alike
  carry hk htame hyz hreads := by
    obtain ⟨tag, children, rfl, hy⟩ := reads_element_iff.1 hreads
    obtain ⟨hz, hrel⟩ := h.carry hk htame hyz hy
    exact ⟨reads_element_iff.2 ⟨tag, children, rfl, hz⟩, hrel⟩

theorem tagged (tag : Tag) {p : Parser (List Element)}
    (h : Carries k S T (List.map Element.unplaced) p p) :
    Carries k S T Element.unplaced (Grammar.tagged tag p) (Grammar.tagged tag p) :=
  element (h.bind fun _ _ hchildren => pure (congrArg (Prod.mk tag) hchildren))

theorem leaf (tag : Tag) {p : Parser Unit} (h : Carries k S T id p p) :
    Carries k S T Element.unplaced (Grammar.leaf tag p) (Grammar.leaf tag p) :=
  element (seq h (pure rfl))

/-- A repetition, from its last piece on. -/
theorem steps (hp : Carries k S S view p p) {w y z : List Char} {vs : List γ}
    (hk : w.length ≤ k) (htame : Tame w y) (hyz : S y z) (h : Steps view p y w vs) :
    Steps view p z w vs ∧ S (w ++ y) (w ++ z) := by
  induction h with
  | nil => exact ⟨.nil, hyz⟩
  | cons hw h hrest ih =>
      rw [List.length_append] at hk
      obtain ⟨hsteps, hrel⟩ := ih (by omega) htame.right
      obtain ⟨hz, hrel'⟩ := hp.carry (by omega) htame.left hrel h
      exact ⟨.cons hw hz hsteps, by simpa using hrel'⟩

theorem exhaust (hp : Carries k S S view p p) (hshort : Shortens 1 p)
    (hT : ∀ {y z : List Char}, T y z → S y z)
    (hstop : ∀ {y z : List Char}, T y z → Fades p y z) :
    Carries k S T (List.map view) (exhaust p) (Parser.exhaust p) where
  alike := hp.alike.exhaust
  carry hk htame hyz hreads := by
    rw [hp.alike.reads_exhaust_iff hshort] at hreads ⊢
    obtain ⟨hsteps, hrel⟩ := hp.steps hk htame (hT hyz) hreads.1
    exact ⟨⟨hsteps, hstop hyz hreads.2⟩, hrel⟩

theorem sepBy {s : Parser Unit} (hp : Carries k R S view p p) (hs : Carries k S R id s s)
    (hshort : Shortens 1 (s >>= fun _ => p)) (hT : ∀ {y z : List Char}, T y z → S y z)
    (hstop : ∀ {y z : List Char}, T y z → Fades (s >>= fun _ => p) y z) :
    Carries k R T (List.map view) (sepBy p s) (Parser.sepBy p s) := by
  rw [sepBy_eq]
  exact hp.bind fun _ _ hfirst => ((seq hs hp).exhaust hshort hT hstop).bind fun _ _ hrest =>
    pure (by rw [List.map_cons, List.map_cons, hfirst, hrest])

end Carries

end Parser

namespace Grammar

open TextShell.Parser Element

variable {k : Nat} {w r s t y z : List Char} {v : Element}

/-! ## Words and blanks between twins -/

/-- Twins that start with a blank. -/
structure SpacedTwin (y z : List Char) : Prop where
  twin : Twin y z
  spaced : Spaced y

theorem Twin.append_spaces (hw : ∀ c ∈ w, isSpace c = true) (h : Twin y z) :
    Twin (w ++ y) (w ++ z) := by
  induction w with
  | nil => exact h
  | cons c w ih =>
      rw [List.forall_mem_cons] at hw
      exact (ih hw.2).cons_space hw.1

theorem carries_space : Carries k SpacedTwin Twin id space space := by
  refine .take fun {w y z} _ hyz hy => ⟨(takes_space_congr hyz.head).1 hy, ?_⟩
  obtain ⟨hne, hw, -⟩ := takes_space_iff.1 hy
  refine ⟨hyz.append_spaces hw, ?_⟩
  cases w with
  | nil => exact absurd rfl hne
  | cons c w => exact ⟨c, w ++ y, rfl, hw c (by simp)⟩

theorem carries_blank : Carries k Twin Twin id blank blank :=
  .take fun _ hyz hy => ⟨takes_blank_congr hyz.head hy, hyz.append_gap hy⟩

theorem takes_keyword_congr {word : String} (h : y.head? = z.head?)
    (hy : Takes (keyword word) w y) : Takes (keyword word) w z := by
  rw [takes_keyword_iff] at hy ⊢
  rwa [← atWordEnd_congr h]

theorem carries_word {word : String} (hword : word ∈ ["else", "split"]) :
    Carries k Twin Twin id (keyword word) (keyword word) := by
  refine .take fun {w y z} _ hyz hy => ⟨takes_keyword_congr hyz.head hy, ?_⟩
  obtain ⟨rfl, hend⟩ := takes_keyword_iff.1 hy
  exact hyz.append_word hword hend

theorem reads_bareString_in (h : Spaced y) :
    Reads unplaced bareString "in".toList y (.ofText .bareString "in".toList []) := by
  obtain ⟨c, y, rfl, hc⟩ := h
  refine reads_bareString_iff.2 ⟨rfl, by simp, ?_, by simp, ?_⟩
  · rcases isSpace_cases hc with rfl | rfl <;> rfl
  · refine Bool.eq_false_iff.2 fun hstart => ?_
    obtain ⟨word, hmem, r, htext, -⟩ := startsWithWord_iff.1 hstart
    simp only [List.mem_cons, List.not_mem_nil, or_false] at hmem
    rcases hmem with rfl | rfl <;> simp at htext

/-- The word of a loop may as well be read as a value. -/
theorem reads_value_in (h : Spaced y) :
    Reads unplaced value "in".toList y (.ofText .bareString "in".toList []) := by
  have hcontrol : Refuses (controlStatement value) ("in".toList ++ y) := by
    refine refuses_control fun word hword => ?_
    refine refuses_keyword_ne (isName_of_mem_control hword)
      (isName_of_mem_words (by simp)) ?_ h.nameEnd
    fin_cases hword <;> simp
  rw [value_eq]
  exact Yields.orElse_right (refuses_block (by simp)) <|
    Yields.orElse_right hcontrol <|
    Yields.orElse_right (Refuses.leaf (refuses_char (by simp)).bind) <|
    Yields.orElse_right (Refuses.leaf (refuses_char (by simp)).bind) (reads_bareString_in h)

theorem carries_in : Carries k Twin SpacedTwin id (keyword "in") (keyword "in") := by
  refine .take fun {w y z} _ hyz hy => ⟨takes_keyword_congr hyz.twin.head hy, ?_⟩
  obtain ⟨rfl, -⟩ := takes_keyword_iff.1 hy
  exact hyz.twin.append_bare (reads_bareString_in hyz.spaced) (reads_value_in hyz.spaced)
    (reads_value_in (hyz.spaced.congr hyz.twin.head))

/-! ## Control statements -/

theorem SpacedTwin.trailing (h : SpacedTwin y z) : Trailing y z :=
  ⟨h.twin.head, h.spaced, fun hp => h.twin.fades (.space (.word (by simp) hp))⟩

/-- Two texts that start with a name, in front of twins. -/
def Named (s t : List Char) : Prop :=
  ∃ n y z, IsName n ∧ s = n ++ y ∧ t = n ++ z ∧ SpacedTwin y z

theorem carries_target : Carries k Named SpacedTwin unplaced variableName variableName := by
  refine .leaf _ (.take fun {w y z} _ hyz hy => ?_)
  rw [takes_name_iff] at hy ⊢
  exact ⟨⟨hy.1, (front_congr hyz.twin.head).1 hy.2⟩, w, y, z, hy.1, rfl, rfl, hyz⟩

theorem Named.head (h : Named s t) : s.head? = t.head? := by
  obtain ⟨n, y, z, hn, rfl, rfl, -⟩ := h
  exact append_head? hn.ne_nil y z

theorem Named.fades_in (h : Named s t) {p : Parser Unit} (hp : Probe p) :
    Fades (keyword "in" >>= fun _ => space >>= fun _ => p) s t := by
  obtain ⟨n, y, z, hn, rfl, rfl, hyz⟩ := h
  have hz := hyz.spaced.congr hyz.twin.head
  have hend {s : List Char} (hs : Spaced s) : atWordEnd s = true := by
    obtain ⟨c, r, rfl, hc⟩ := hs
    rcases isSpace_cases hc with rfl | rfl <;> rfl
  by_cases hin : String.ofList n = "in"
  · obtain rfl : n = "in".toList := by rw [← hin, String.toList_ofList]
    exact fades_behind (Probe.space hp).uniform (takes_keyword (hend hyz.spaced))
      (takes_keyword (hend hz)) (hyz.twin.fades (.space hp))
  · have hrefuses : Refuses (keyword "in") ((String.ofList n).toList ++ z) :=
      refuses_keyword_ne (isName_of_mem_words (by simp)) (by rwa [String.toList_ofList])
        (Ne.symm hin) hz.nameEnd
    rw [String.toList_ofList] at hrefuses
    exact fades_of_refuses hrefuses.bind

theorem carries_space_named : Carries k Trailing Named id space space := by
  refine .take fun {w y z} _ hyz hy => ?_
  have hz := (takes_space_congr hyz.head).1 hy
  obtain ⟨hne, hw, -⟩ := takes_space_iff.1 hy
  refine ⟨hz, append_head? hne y z, ?_, fun hp => ?_⟩
  · cases w with
    | nil => exact absurd rfl hne
    | cons c w => exact ⟨c, w ++ y, rfl, hw c (by simp)⟩
  · exact fades_behind (Probe.word (by simp) hp).uniform hy hz (hyz.fades_in hp)

theorem sameRefusals_body {α : Type} (f : Element → α) :
    SameRefusals (blank >>= fun _ => value >>= fun body => pure (f body)) bodyPart :=
  .bind fun _ => (SameRefusals.finish f).trans (SameRefusals.finish _).symm

/-- The parts of a loop from `split` on. -/
def splitPart : Parser Unit :=
  space >>= fun _ => keyword "split" >>= fun _ => space >>= fun _ => value >>= fun _ => bodyPart

theorem probe_splitPart : Probe splitPart := .space (.word (by simp) (.value .body))

theorem sameRefusals_split {α : Type} (f : Element → Element → α) :
    SameRefusals (space >>= fun _ => keyword "split" >>= fun _ => space >>= fun _ =>
      value >>= fun separator => blank >>= fun _ => value >>= fun body =>
        pure (f separator body)) splitPart :=
  .bind fun _ => .bind fun _ => .bind fun _ => .bind fun separator =>
    sameRefusals_body (f separator)

theorem carries_space_twin : Carries k Twin Twin id space space :=
  carries_space.mono (fun _ _ h => h) fun _ _ h => h.twin

theorem carries_space_trailing : Carries k Trailing Twin id space space :=
  carries_space.mono (fun _ _ h => h) fun _ _ h => h.trailing

/-- A rule that starts with a keyword. -/
def keyed (word : String) (p : Parser (Tag × List Element)) : Parser Element :=
  element (keyword word >>= fun _ => p)

/-- What stands behind `for`. -/
def behindFor (value : Parser Element) : Parser (Tag × List Element) := do
  space
  let target ← variableName
  space
  keyword "in"
  space
  let list ← value
  (do
    space
    keyword "split"
    space
    let separator ← value
    blank
    let body ← value
    return (.forSplitStmt, [target, list, separator, body])) <|> (do
    blank
    let body ← value
    return (.forStmt, [target, list, body]))

/-- What stands behind `if`. -/
def behindIf (value : Parser Element) : Parser (Tag × List Element) := do
  space
  let condition ← value
  blank
  let body ← value
  (elseBranch value >>= fun falseBody =>
    return (.ifElseStmt, [condition, body, falseBody])) <|> return (.ifStmt, [condition, body])

/-- What stands behind `while`. -/
def behindWhile (value : Parser Element) : Parser (Tag × List Element) := do
  space
  let condition ← value
  blank
  let body ← value
  return (.whileStmt, [condition, body])

theorem controlStatement_eq (value : Parser Element) :
    controlStatement value =
      (keyed "for" (behindFor value) <|> keyed "if" (behindIf value) <|>
        keyed "while" (behindWhile value)) := by
  have hwhile : whileStatement value = keyed "while" (behindWhile value) := by
    simp only [whileStatement, tagged, keyed, behindWhile, bind_assoc, pure_bind]
  rw [controlStatement, hwhile, ifStatement_eq]
  rfl

theorem carries_keyword {T : List Char → List Char → Prop} {word : String}
    (hT : ∀ {y z}, T y z → y.head? = z.head?) :
    Carries k (Opened word.toList T) T id (keyword word) (keyword word) := by
  refine .take fun {w y z} _ hyz hy => ⟨takes_keyword_congr (hT hyz) hy, ?_⟩
  obtain ⟨rfl, hend⟩ := takes_keyword_iff.1 hy
  have hend' := nameEnd_of_atWordEnd hend
  exact ⟨y, z, rfl, rfl, hend', (front_congr (hT hyz)).1 hend', hyz⟩

theorem Opened.refuses_keyword {T : List Char → List Char → Prop} {word other : String}
    (h : Opened other.toList T s t) (hword : IsName word.toList) (hother : IsName other.toList)
    (hne : word ≠ other) : Refuses (keyword word) t := by
  obtain ⟨y, z, -, rfl, -, hend, -⟩ := h
  exact refuses_keyword_ne hword hother hne hend

theorem refuses_block_name {n : List Char} (hn : IsName n) :
    Refuses (block execution) (n ++ r) := by
  refine refuses_block ((isName_front hn r).mono fun c hc => ?_)
  rintro rfl
  cases hc

theorem Opened.refuses_block {T : List Char → List Char → Prop} {n : List Char}
    (h : Opened n T s t) (hn : IsName n) : Refuses (block execution) t := by
  obtain ⟨y, z, -, rfl, -⟩ := h
  exact refuses_block_name hn

section Control

variable (hv : Carries k Twin Twin unplaced value value)

include hv

theorem carries_elseBranch :
    Carries k Twin Twin unplaced (elseBranch value) (elseBranch value) :=
  .seq carries_blank <| .seq (carries_word (by simp)) <| .seq carries_blank hv

theorem carries_behindFor :
    Carries k Trailing Twin (Prod.map id (List.map unplaced)) (behindFor value)
      (behindFor value) :=
  .seq carries_space_named <|
    carries_target.bind fun _ _ htarget =>
    .seq carries_space <| .seq carries_in <| .seq carries_space <|
    hv.bind fun _ _ hlist =>
    .orElse
      (.seq carries_space_twin <| .seq (carries_word (by simp)) <| .seq carries_space_twin <|
        hv.bind fun _ _ hseparator => .seq carries_blank <|
        hv.bind fun _ _ hbody => .pure (by simp [htarget, hlist, hseparator, hbody]))
      (.seq carries_blank <|
        hv.bind fun _ _ hbody => .pure (by simp [htarget, hlist, hbody]))
      fun _ _ hrel hy => by
        rw [(sameRefusals_split _).refuses_iff] at hy ⊢
        exact hrel.fades probe_splitPart hy

theorem carries_behindIf :
    Carries k Trailing Twin (Prod.map id (List.map unplaced)) (behindIf value)
      (behindIf value) :=
  .seq carries_space_trailing <|
    hv.bind fun _ _ hcondition => .seq carries_blank <|
    hv.bind fun _ _ hbody =>
    .orElse
      ((carries_elseBranch hv).bind fun _ _ hfalse =>
        .pure (by simp [hcondition, hbody, hfalse]))
      (.pure (by simp [hcondition, hbody]))
      fun _ _ hrel hy => by
        rw [(SameRefusals.finish _).refuses_iff,
          ← (SameRefusals.finish fun _ => ()).refuses_iff] at hy ⊢
        exact hrel.fades .other hy

theorem carries_behindWhile :
    Carries k Trailing Twin (Prod.map id (List.map unplaced)) (behindWhile value)
      (behindWhile value) :=
  .seq carries_space_trailing <|
    hv.bind fun _ _ hcondition => .seq carries_blank <|
    hv.bind fun _ _ hbody => .pure (by simp [hcondition, hbody])

end Control

/-- Two texts at which a control statement starts. -/
def Controlled (s t : List Char) : Prop :=
  ∃ word ∈ ["for", "if", "while"], Opened word.toList Trailing s t

theorem carries_controlStatement (hv : Carries k Twin Twin unplaced value value) :
    Carries (k + 1) Controlled Twin unplaced (controlStatement value)
      (controlStatement value) := by
  have hkeyed {word : String} {p : Parser (Tag × List Element)}
      (hword : word ∈ ["for", "if", "while"])
      (hp : Carries k Trailing Twin (Prod.map id (List.map unplaced)) p p) :
      Carries (k + 1) (Opened word.toList Trailing) Twin unplaced (keyed word p)
        (keyed word p) :=
    .element (.seq_succ (carries_keyword Trailing.head)
      (shortens_keyword (isName_of_mem_control hword).ne_nil) hp)
  have hother {word other : String} {p : Parser (Tag × List Element)} {s t : List Char}
      (hword : word ∈ ["for", "if", "while"]) (hmem : other ∈ ["for", "if", "while"])
      (hne : word ≠ other) (h : Opened other.toList Trailing s t) :
      Refuses (keyed word p) t :=
    Refuses.element (h.refuses_keyword (isName_of_mem_control hword)
      (isName_of_mem_control hmem) hne).bind
  rw [controlStatement_eq]
  refine ((hkeyed (by simp) (carries_behindFor hv)).orElse_cases
    ((hkeyed (by simp) (carries_behindIf hv)).orElse_cases
      (hkeyed (by simp) (carries_behindWhile hv)) ?_) ?_).mono (fun _ _ h => h) ?_
  · exact fun _ _ h _ => hother (by simp) (by simp) (by simp) h
  · rintro w y z - - (h | h) -
    · exact hother (by simp) (by simp) (by simp) h
    · exact hother (by simp) (by simp) (by simp) h
  · rintro s t (h | h | h)
    · exact ⟨"for", by simp, h⟩
    · exact ⟨"if", by simp, h⟩
    · exact ⟨"while", by simp, h⟩

/-! ## Between statements -/

/-- Two texts at which a statement starts. -/
structure Started (s t : List Char) : Prop where
  head : s.head? = t.head?
  value : Fades value s t
  other : Fades (keyword "else" >>= fun _ => blank >>= fun _ => Grammar.value) s t

/-- Two texts at which a statement is over. -/
def Ended (y z : List Char) : Prop :=
  ∃ sp c y' z', (∀ d ∈ sp, isSpace d = true) ∧ IsStop c ∧ y = sp ++ c :: y' ∧
    z = sp ++ c :: z' ∧ Keeps (c :: y') (c :: z')

theorem Ended.twin (h : Ended y z) : Twin y z := by
  obtain ⟨sp, c, y', z', hsp, hc, rfl, rfl, hkeeps⟩ := h
  exact (Twin.cons_stop hc hkeeps).append_spaces hsp

theorem IsStop.started {c : Char} (hc : IsStop c) (y z : List Char) :
    Started (c :: y) (c :: z) where
  head := rfl
  value := fades_of_refuses (hc.refuses_value z)
  other := fades_of_refuses (refuses_keyword_of_name
    (isName_of_mem_reserved "else" (by simp [reserved]))
    ((front_cons _ c z).2 hc.isNameStart)).bind

theorem Started.keeps {g : List Char} (h : Started s t) (hg : Takes gap g s) :
    Keeps (g ++ s) (g ++ t) := by
  rcases takes_gap_cases hg with hblank | ⟨g, g', rfl, hblank⟩
  · exact Keeps.behind hblank (takes_blank_congr h.head hblank) h.value h.other
  · have hmark : Started (';' :: (g' ++ s)) (';' :: (g' ++ t)) :=
      IsStop.started (.inr (by simp)) _ _
    rw [List.append_assoc, List.append_assoc]
    exact Keeps.behind (hblank _) (hblank _) hmark.value hmark.other

/-- A gap that is more than blanks, or ends at a brace, ends a statement. -/
theorem Started.ended {g : List Char} (h : Started s t) (hg : Takes gap g s)
    (hstop : (∃ d ∈ g, isSpace d = false) ∨
      ∃ c y z, IsStop c ∧ s = c :: y ∧ t = c :: z) : Ended (g ++ s) (g ++ t) := by
  induction g with
  | nil =>
      rcases hstop with ⟨d, hd, -⟩ | ⟨c, y, z, hc, rfl, rfl⟩
      · cases hd
      · exact ⟨[], c, y, z, by simp, hc, rfl, rfl, h.keeps hg⟩
  | cons c g ih =>
      by_cases hspace : isSpace c = true
      · obtain ⟨sp, d, y', z', hsp, hd, hy, hz, hkeeps⟩ :=
          ih ((takes_gap_cons (isGap_of_isSpace hspace)).1 hg) (by simpa [hspace] using hstop)
        refine ⟨c :: sp, d, y', z', List.forall_mem_cons.2 ⟨hspace, hsp⟩, hd, ?_, ?_, hkeeps⟩
        · rw [List.cons_append, hy, List.cons_append]
        · rw [List.cons_append, hz, List.cons_append]
      · have hc : IsStop c := by
          rcases takes_gap_front hg with hgap | rfl | rfl
          · exact .inl ⟨hgap, by simpa using hspace⟩
          · exact .inr (by simp)
          · exact .inr (by simp)
        exact ⟨[], c, g ++ s, g ++ t, by simp, hc, rfl, rfl, h.keeps hg⟩

theorem exists_not_space (h : IsEnd w) :
    ∃ d ∈ w, isSpace d = false := by
  cases h with
  | @mark sp c _ hc => exact ⟨c, by simp, by rcases hc with rfl | rfl <;> rfl⟩
  | comment => exact ⟨'#', by simp, rfl⟩

theorem carries_separator : Carries k Ended Started id separator separator where
  alike := uniform_separator
  carry _ htame hyz hreads := by
    obtain ⟨w₁, w₂, rfl, hend, hgap⟩ := exists_isEnd (hreads.mono fun _ _ => trivial) htame
    have hz := takes_separator_append hend (takes_gap_congr hyz.head hgap)
    obtain ⟨d, hd, hspace⟩ := exists_not_space hend
    exact ⟨hz.mono fun _ _ => rfl, hyz.ended (takes_gap_append hend hgap)
      (.inl ⟨d, by simp [hd], hspace⟩)⟩

/-! ## Blocks -/

/-- No statement follows a gap that ends where none starts. -/
theorem refuses_separator {g : List Char} (hg : Takes gap g s) (hs : Refuses execution s)
    (hne : s ≠ []) : Refuses (separator >>= fun _ => execution) (g ++ s) := by
  rcases uniform_separator.cases (g ++ s) with hnone | ⟨w, r, _, htext, hreads⟩
  · exact hnone.bind
  have hlen := takes_gap_iff.1 hg
  rw [htext] at hlen ⊢
  obtain ⟨w₁, w₂, rfl, h₁, h₂⟩ :=
    Alike.reads_seq (Alike.take separatorLength?) (Alike.take _) hreads
  have hrest := takes_gap_iff.1 (h₂.mono fun _ _ => trivial)
  obtain ⟨n, hn, hw⟩ := takes_take h₁
  obtain ⟨w', r', htext', rfl, hcases⟩ := separatorLength?_eq_some hn
  obtain rfl : w₁ = w' := by rw [hw, htext', List.take_left]
  obtain rfl := List.append_cancel_left htext'
  rw [List.append_assoc] at hlen
  rcases hcases with hend | ⟨sp, b, hsp, rfl, -, hopen⟩
  · rw [gapLength_of_isEnd hend, hrest, ← List.length_append] at hlen
    obtain ⟨rfl, rfl⟩ := List.append_inj htext hlen.symm
    exact (refuses_behind hreads (uniform_reader .execution)).2 hs
  · -- a comment that is cut runs to the end, and nothing is left
    rw [List.append_assoc, gapLength_append _ fun d hd => by simp [isGap_of_isSpace (hsp d hd)],
      List.cons_append, gapLength, if_neg (by simp), if_neg (by decide), if_pos rfl,
      gapLength_open hopen] at hlen
    have htotal := congrArg List.length htext
    have hpos := List.length_pos_iff.2 hne
    simp only [List.length_append, List.length_cons] at hlen htotal
    omega

/-- A statement starts with a name, unless it is a block. -/
theorem refuses_execution_of_block (hfront : Front (fun c => isNameStart c = false) s)
    (hblock : Refuses (block execution) s) : Refuses execution s := by
  have hword (word : String) (hmem : word ∈ reserved) : Refuses (keyword word) s :=
    refuses_keyword_of_name (isName_of_mem_reserved word hmem) hfront
  rw [execution_eq]
  exact hblock.orElse <|
    (refuses_control_of_front hfront).orElse <|
    (Refuses.tagged (refuses_variableName hfront).bind).orElse <|
    (Refuses.tagged (hword "return" (by simp [reserved])).bind).orElse <|
    (Refuses.tagged (hword "clear" (by simp [reserved])).bind).orElse <|
    (Refuses.tagged (refuses_functionName hfront).bind).orElse <|
    Refuses.tagged (refuses_functionName hfront).bind

/-- What no statement starts with. -/
theorem refuses_execution_of_front {c : Char} (hname : isNameStart c = false) (hc : c ≠ '{') :
    Refuses execution (c :: s) :=
  refuses_execution_of_block ((front_cons _ c s).2 hname)
    (refuses_block ((front_cons _ c s).2 hc))

/-- Any two texts. -/
def Any (_ _ : List Char) : Prop := True

/-- Two texts that start alike. -/
def Heads (y z : List Char) : Prop := y.head? = z.head?

/-- Two texts that start with `c`. -/
def Before (c : Char) (s t : List Char) : Prop := ∃ y z, s = c :: y ∧ t = c :: z

/-- Two texts in which `c` follows the same gap. -/
def Closing (p : Parser Unit) (c : Char) (s t : List Char) : Prop :=
  ∃ g y z, s = g ++ c :: y ∧ t = g ++ c :: z ∧ Takes p g (c :: y) ∧ Takes p g (c :: z)

theorem Before.heads {c : Char} (h : Before c s t) : Heads s t := by
  obtain ⟨y, z, rfl, rfl⟩ := h
  exact rfl

theorem Closing.heads {p : Parser Unit} {c : Char} (h : Closing p c s t) : Heads s t := by
  obtain ⟨g, y, z, rfl, rfl, -⟩ := h
  cases g <;> exact rfl

theorem carries_char (c : Char) : Carries k (Before c) Any id (char c) (char c) := by
  refine .take fun {w y z} _ _ hy => ?_
  obtain rfl := takes_char_iff.1 hy
  exact ⟨takes_char c z, y, z, rfl, rfl⟩

theorem carries_gap_closing (c : Char) :
    Carries k (Closing gap c) (Before c) id gap gap := by
  refine .take fun {w y z} _ hyz hy => ?_
  have hz := takes_gap_congr hyz.heads hy
  obtain ⟨y, z, rfl, rfl⟩ := hyz
  exact ⟨hz, w, y, z, rfl, rfl, hy, hz⟩

theorem carries_gap : Carries k Any Heads id gap gap :=
  .take fun _ hyz hy => ⟨takes_gap_congr hyz hy, trivial⟩

section Block

variable (hx : Carries k Started Ended unplaced execution execution)

include hx

theorem carries_executions :
    Carries k Started (Closing gap '}') (List.map unplaced) (sepBy execution separator)
      (sepBy execution separator) := by
  refine hx.sepBy carries_separator (shortens_separator.bind fun _ => shortens_reader _) ?_ ?_
  · rintro _ _ ⟨g, y, z, rfl, rfl, hy, -⟩
    have hstop : IsStop '}' := .inr (by simp)
    exact (hstop.started y z).ended hy (.inr ⟨'}', y, z, hstop, rfl, rfl⟩)
  · rintro _ _ ⟨g, y, z, rfl, rfl, -, hz⟩
    exact fades_of_refuses
      (refuses_separator hz (refuses_execution_of_front rfl (by decide)) (by simp))

/-- A block is read in front of any text. -/
theorem carries_block :
    Carries (k + 1) (Before '{') Any unplaced (block execution) (block execution) := by
  have hlist : Carries k Heads (Closing gap '}') (List.map unplaced)
      (sepBy execution separator <|> pure []) (sepBy execution separator <|> pure []) := by
    refine .orElse ((carries_executions hx).mono (fun _ _ h => h) fun _ _ h => h.head)
      ((Carries.pure rfl).mono (fun _ _ h => h) fun _ _ h => h.heads) ?_
    rintro w _ _ ⟨g, y, z, rfl, rfl, -, hz⟩ htakes - -
    obtain rfl := takes_pure htakes
    cases g with
    | nil => exact (refuses_execution_of_front rfl (by decide)).bind
    | cons c g =>
        refine Refuses.bind (refuses_execution_of_front ?_ ?_)
        · rcases takes_gap_front hz with hgap | rfl | rfl
          · exact isNameStart_of_isGap hgap
          · rfl
          · rfl
        · rintro rfl
          exact absurd (takes_gap_front hz) (by decide)
  exact .tagged .block <|
    .seq_succ ((carries_char '{').mono (fun _ _ h => h) fun _ _ h => h) (shortens_char '{') <|
    .seq carries_gap <|
    hlist.bind fun _ _ hes =>
    .seq (carries_gap_closing '}') <| .seq (carries_char '}') <| .pure hes

end Block

/-! ## Values -/

theorem carries_quoted (tag : Tag) (mark : Char) :
    Carries k (Before mark) Any unplaced
      (leaf tag (char mark >>= fun _ => take (quotedLength? mark)))
      (leaf tag (char mark >>= fun _ => take (quotedLength? mark))) := by
  refine .leaf _ (.seq (carries_char mark) (.take fun {w y z} _ _ hy => ⟨?_, trivial⟩))
  rw [takes_take_iff fun _ _ => quotedLength?_le] at hy
  exact Yields.take (quotedLength?_congr hy)

/-- What `for` looks for. -/
def forPart : Parser Unit :=
  variableName >>= fun _ => space >>= fun _ => keyword "in" >>= fun _ => space >>= fun _ =>
    value >>= fun _ => splitPart <|> bodyPart

/-- What `if` and `while` look for. -/
def conditionPart : Parser Unit := value >>= fun _ => bodyPart

theorem sameRefusals_keyed {word : String} {p : Parser (Tag × List Element)} {q : Parser Unit}
    (h : SameRefusals p q) : SameRefusals (keyed word p) (keyword word >>= fun _ => q) :=
  (SameRefusals.element _).trans (.bind fun _ => h)

theorem sameRefusals_behindFor :
    SameRefusals (behindFor value) (space >>= fun _ => forPart) :=
  .bind fun _ => .bind fun _ => .bind fun _ => .bind fun _ => .bind fun _ =>
    .bind fun _ => .orElse (sameRefusals_split _) (sameRefusals_body _)

theorem sameRefusals_behindIf :
    SameRefusals (behindIf value) (space >>= fun _ => conditionPart) := by
  refine .bind fun _ => .bind fun _ => .bind fun _ => ?_
  refine (SameRefusals.never fun _ c => ?_).trans (SameRefusals.finish _).symm
  rw [orElse_apply, pure_apply]
  simp

theorem sameRefusals_behindWhile :
    SameRefusals (behindWhile value) (space >>= fun _ => conditionPart) :=
  .bind fun _ => .bind fun _ => sameRefusals_body _

/-- A bare string that is no keyword stays none. -/
theorem Twin.fades_control (h : Twin y z) (hw : ∀ c ∈ w, Text.isGap c = false)
    (hz : NameEnd z) : Fades (controlStatement value) (w ++ y) (w ++ z) := by
  have hkeyed {word : String} {p : Parser (Tag × List Element)} {q : Parser Unit}
      (hword : word ∈ ["for", "if", "while"]) (hq : Probe q)
      (hp : SameRefusals p (space >>= fun _ => q)) :
      Fades (keyed word p) (w ++ y) (w ++ z) := by
    unfold Fades
    rw [(sameRefusals_keyed hp).refuses_iff, (sameRefusals_keyed hp).refuses_iff]
    refine fades_word (Alike.take _) (fun ht => ?_) takes_keyword_congr hq.uniform hw h.head hz
      (h.fades (.space hq))
    rw [(takes_keyword_iff.1 ht).1]
    exact (isName_of_mem_control hword).isNameChar
  have hcondition : Probe conditionPart := .value .body
  rw [controlStatement_eq]
  exact fades_orElse
    (hkeyed (by simp) (.target (.value (.orElse probe_splitPart .body))) sameRefusals_behindFor)
    (fades_orElse (hkeyed (by simp) hcondition sameRefusals_behindIf)
      (hkeyed (by simp) hcondition sameRefusals_behindWhile))

/-- A text that starts with its mark. -/
theorem carry_marked {c : Char} {p : Parser Element} (hp : Carries k (Before c) Any unplaced p p)
    (hshort : Shortens 1 p) (hk : w.length ≤ k) (htame : Tame w y)
    (h : Reads unplaced p w y v) (z : List Char) :
    Reads unplaced p w z v ∧ ∃ w', w = c :: w' := by
  obtain ⟨hz, y', z', hy', -⟩ := hp.carry (z := z) hk htame trivial h
  have hpos := h.pos hshort
  cases w with
  | nil => simp at hpos
  | cons d w =>
      obtain ⟨rfl, -⟩ := List.cons.inj hy'
      exact ⟨hz, w, rfl⟩

/-- One more character of a value. -/
theorem carries_value_succ (hv : Carries k Twin Twin unplaced value value)
    (hx : Carries k Started Ended unplaced execution execution) :
    Carries (k + 1) Twin Twin unplaced value value where
  alike := uniform_reader .value
  carry {w y z v} hk htame hyz hy := by
    have h := hy
    rw [value_eq] at h
    have hmark {c : Char} (hc : c ∈ ['{', '"', '\'']) (w' : List Char) :
        Refuses (controlStatement value) (c :: w' ++ z) :=
      refuses_control_of_front ((front_cons _ c _).2 (by fin_cases hc <;> rfl))
    rcases (uniform_block (uniform_reader _)).reads_orElse h with h | ⟨-, h⟩
    · obtain ⟨hz, w, rfl⟩ := carry_marked (carries_block hx)
        (shortens_block (shortens_reader _).weaken) hk htame h z
      have hvalue : Reads unplaced value ('{' :: w) z v := by
        rw [value_eq]
        exact hz.orElse_left
      exact ⟨hvalue, hyz.append_quoted (by simp) hy hvalue⟩
    rcases (uniform_controlStatement (uniform_reader _)).reads_orElse h with h | ⟨hnone, h⟩
    · obtain ⟨hz, word, hword, hopened⟩ := (carries_controlStatement hv).carry hk htame hyz h
      have hvalue : Reads unplaced value w z v := by
        rw [value_eq]
        exact Yields.orElse_right (hopened.refuses_block (isName_of_mem_control hword))
          hz.orElse_left
      exact ⟨hvalue, hyz.append_control hword hopened hy hvalue⟩
    rcases uniform_dquoteString.reads_orElse h with h | ⟨-, h⟩
    · obtain ⟨hz, w, rfl⟩ := carry_marked (carries_quoted _ _) shortens_dquoteString hk htame h z
      have hvalue : Reads unplaced value ('"' :: w) z v := by
        rw [value_eq]
        exact Yields.orElse_right (refuses_block (by simp)) <|
          Yields.orElse_right (hmark (by simp) w) hz.orElse_left
      exact ⟨hvalue, hyz.append_quoted (by simp) hy hvalue⟩
    rcases uniform_squoteString.reads_orElse h with h | ⟨-, h⟩
    · obtain ⟨hz, w, rfl⟩ := carry_marked (carries_quoted _ _) shortens_squoteString hk htame h z
      have hvalue : Reads unplaced value ('\'' :: w) z v := by
        rw [value_eq]
        exact Yields.orElse_right (refuses_block (by simp)) <|
          Yields.orElse_right (hmark (by simp) w) <|
          Yields.orElse_right (Refuses.leaf (refuses_char (by simp)).bind) hz.orElse_left
      exact ⟨hvalue, hyz.append_quoted (by simp) hy hvalue⟩
    · obtain ⟨-, hne, hlen, -⟩ := reads_bareString_iff.1 h
      obtain ⟨hy₀, hgap, hz₀⟩ := bareLength_append hlen
      have hend : NameEnd z :=
        (front_of_bareLength (hyz.bare hy₀)).mono fun _ => isNameChar_of_isBareEnd
      have hpos := List.length_pos_iff.2 hne
      have hfront : Front (fun c => c ∉ ['{', '"', '\'']) (w ++ z) :=
        front_of_bareLength_ne_zero (by rw [hz₀ z (hyz.bare hy₀)]; omega)
      have hvalue : Reads unplaced value w z v := by
        rw [value_eq]
        exact Yields.orElse_right (refuses_block (hfront.mono (by simp +contextual))) <|
          Yields.orElse_right (hyz.fades_control hgap hend hnone) <|
          Yields.orElse_right
            (Refuses.leaf (refuses_char (hfront.mono (by simp +contextual))).bind) <|
          Yields.orElse_right
            (Refuses.leaf (refuses_char (hfront.mono (by simp +contextual))).bind) <|
          reads_bareString_congr hyz.head hyz.bare h
      exact ⟨hvalue, hyz.append_bare h hy hvalue⟩

end Grammar

end TextShell
