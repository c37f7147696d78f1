import TextShell.Proofs.Program.Lookahead

/-!
# What follows a text

A rule looks beyond the text it takes: a word ends where no word character follows,
a conditional ends where no `else` follows, and `if` is a plain word where no two
values follow.  Two texts are twins, `Twin y z`, if whatever the grammar looks for
and does not find in front of `y` is not found in front of `z` either.

What the grammar looks for is a `Probe`: a sequence of blanks, words and values, as
they stand behind a keyword or behind a value.  A probe goes through a text piece by
piece, so twins stay twins when the same piece is put in front of both, as long as it
is read in front of both.  There is one lemma for every kind of piece.

## Main results

* `fades_piece` — how a probe goes into a piece.
* `Twin.cons_space`, `Twin.cons_stop`, `Twin.append_gap`, `Twin.append_quoted`,
  `Twin.append_bare`, `Twin.append_control`, `Twin.append_word` — the pieces of a text.
-/

namespace TextShell

namespace Parser

variable {α β γ δ : Type}

/-! ## Where parsers refuse -/

/-- The two parsers refuse at the same places. -/
def SameRefusals (p : Parser α) (q : Parser β) : Prop :=
  ∀ c : Cursor, p c = none ↔ q c = none

namespace SameRefusals

variable {p : Parser α} {q : Parser β}

theorem trans {r : Parser γ} (h : SameRefusals p q) (h' : SameRefusals q r) :
    SameRefusals p r := fun c => (h c).trans (h' c)

theorem symm (h : SameRefusals p q) : SameRefusals q p := fun c => (h c).symm

theorem refuses_iff (h : SameRefusals p q) (s : List Char) :
    Refuses p s ↔ Refuses q s :=
  forall_congr' fun c => imp_congr_right fun _ => h c

theorem bind {f : α → Parser β} {g : α → Parser γ}
    (h : ∀ a, SameRefusals (f a) (g a)) : SameRefusals (p >>= f) (p >>= g) := by
  intro c
  rw [bind_apply, bind_apply]
  cases p c with
  | none => simp
  | some answer => exact h answer.1 answer.2

/-- Putting the answer together refuses nothing. -/
theorem finish (f : α → β) : SameRefusals (p >>= fun a => Pure.pure (f a)) p := by
  intro c
  rw [bind_apply]
  cases p c <;> simp [pure_apply]

/-- Behind a parser, one that refuses nothing does not matter. -/
theorem never {f : α → Parser β} (h : ∀ a c, f a c ≠ none) : SameRefusals (p >>= f) p := by
  intro c
  rw [bind_apply]
  cases p c <;> simp [h]

theorem orElse {p q : Parser α} {p' q' : Parser β} (hp : SameRefusals p p')
    (hq : SameRefusals q q') : SameRefusals (p <|> q) (p' <|> q') := by
  intro c
  rw [orElse_apply, orElse_apply, Option.or_eq_none_iff, Option.or_eq_none_iff, hp c, hq c]

/-- A list is refused where its first item is. -/
theorem sepBy (p : Parser α) (s : Parser Unit) : SameRefusals (sepBy p s) p := by
  rw [sepBy_eq]
  refine never fun a c => ?_
  rw [bind_apply]
  cases hmany : exhaust (s >>= fun _ => p) c with
  | none =>
      rw [exhaust, bind_apply, get_apply, Option.bind_some] at hmany
      exact absurd hmany (many_ne_none _ _ c)
  | some answer => simp [pure_apply]

theorem element (p : Parser (Tag × List Element)) :
    SameRefusals (Grammar.element p) p := by
  intro c
  have hunfold : Grammar.element p c =
      (p c).bind fun answer => some (Element.mk answer.1.1
        (some (.text (String.ofList (c.rest.take (answer.2.offset - c.offset)))))
        (.integer c.line) (.integer c.col) answer.1.2 none, answer.2) := rfl
  rw [hunfold]
  cases p c <;> simp

end SameRefusals

/-- Where `p` refuses `y`, it refuses `z`. -/
def Fades (p : Parser α) (y z : List Char) : Prop := Refuses p y → Refuses p z

section Fades

variable {view : α → γ} {p : Parser α} {w r y z : List Char} {P : α → Prop}

theorem fades_of_refuses (h : Refuses p z) : Fades p y z := fun _ => h

/-- Behind a parser that takes what stands there, the next one decides. -/
theorem refuses_behind {q : Parser β} {view : β → δ} (hp : Yields p w r P)
    (hq : Uniform view q) : Refuses (p >>= fun _ => q) (w ++ r) ↔ Refuses q r := by
  constructor
  · intro h
    obtain ⟨a, -, hc⟩ := hp { rest := w ++ r } rfl
    have hnone := h { rest := w ++ r } rfl
    rw [bind_apply, hc, Option.bind_some] at hnone
    have hrefuses := hq.refuses hnone
    rwa [Cursor.skip_rest, List.drop_left] at hrefuses
  · exact fun h => Refuses.of_yields_bind hp fun _ _ => h

theorem fades_behind {q : Parser β} {view : β → δ} {Q : α → Prop} (hq : Uniform view q)
    (hy : Yields p w y P) (hz : Yields p w z Q) (h : Fades q y z) :
    Fades (p >>= fun _ => q) (w ++ y) (w ++ z) := fun hrefuses =>
  (refuses_behind hz hq).2 (h ((refuses_behind hy hq).1 hrefuses))

theorem fades_orElse {p q : Parser α} (hp : Fades p y z) (hq : Fades q y z) :
    Fades (p <|> q) y z := fun h =>
  (hp (refuses_orElse_iff.1 h).1).orElse (hq (refuses_orElse_iff.1 h).2)

theorem not_refuses_pure (a : α) (s : List Char) : ¬Refuses (Pure.pure a : Parser α) s :=
  fun h => absurd (h { rest := s } rfl) (by simp [pure_apply])

end Fades

end Parser

namespace Grammar

open TextShell.Parser Element

variable {w r s t y z : List Char} {v : Element}

/-- What no value starts with. -/
theorem refuses_value_of_front {c : Char} (hname : isNameStart c = false)
    (hmark : c ∉ ['{', '"', '\'']) (hbare : bareLength (c :: s) = 0 ∨ c = '#') :
    Refuses value (c :: s) := by
  simp only [List.mem_cons, List.not_mem_nil, or_false, not_or] at hmark
  have hstring : Refuses bareString (c :: s) := by
    refine Refuses.leaf (Refuses.take ?_)
    rcases hbare with hbare | rfl
    · simp [hbare]
    · simp
  rw [value_eq]
  exact (refuses_block (by simp [hmark])).orElse <|
    (refuses_control_of_front ((front_cons _ c s).2 hname)).orElse <|
    (Refuses.leaf (refuses_char (by simp [hmark])).bind).orElse <|
    (Refuses.leaf (refuses_char (by simp [hmark])).bind).orElse hstring

/-! ## Probes -/

/-- What makes a loop or a conditional go on behind a value. -/
def bodyPart : Parser Unit := blank >>= fun _ => value >>= fun _ => pure ()

/-- What makes a conditional go on behind its first body. -/
def elsePart : Parser Unit := elseBranch value >>= fun _ => pure ()

/-- What the grammar may look for behind a value or a keyword. -/
inductive Probe : Parser Unit → Prop
  | done : Probe (pure ())
  | body : Probe bodyPart
  | other : Probe elsePart
  | space {p : Parser Unit} (hp : Probe p) : Probe (space >>= fun _ => p)
  | value {p : Parser Unit} (hp : Probe p) : Probe (value >>= fun _ => p)
  | word {word : String} (hword : word ∈ ["in", "split"]) {p : Parser Unit}
      (hp : Probe p) : Probe (keyword word >>= fun _ => Parser.space >>= fun _ => p)
  | target {p : Parser Unit} (hp : Probe p) :
      Probe (variableName >>= fun _ => Parser.space >>= fun _ => keyword "in" >>= fun _ =>
        Parser.space >>= fun _ => p)
  | orElse {p q : Parser Unit} (hp : Probe p) (hq : Probe q) : Probe (p <|> q)

theorem uniform_bodyPart : Uniform id bodyPart :=
  .seq (.take _) ((uniform_reader .value).bind fun _ _ _ => .pure rfl)

theorem uniform_elsePart : Uniform id elsePart :=
  (uniform_elseBranch (uniform_reader .value)).bind fun _ _ _ => .pure rfl

theorem Probe.uniform {p : Parser Unit} (h : Probe p) : Uniform id p := by
  induction h with
  | done => exact .pure rfl
  | body => exact uniform_bodyPart
  | other => exact uniform_elsePart
  | space _ ih => exact .seq (.take _) ih
  | value _ ih => exact (uniform_reader .value).bind fun _ _ _ => ih
  | word _ _ ih => exact .seq (.take _) (.seq (.take _) ih)
  | target _ ih =>
      exact uniform_variableName.bind fun _ _ _ =>
        .seq (.take _) (.seq (.take _) (.seq (.take _) ih))
  | orElse _ _ ihp ihq => exact ihp.orElse ihq

/-- Neither a body nor an `else` turns up in front of `z` if none was there in front of
`y`. -/
structure Keeps (y z : List Char) : Prop where
  body : Fades bodyPart y z
  other : Fades elsePart y z

/-- What the grammar looks for and does not find in front of `y` is not found in front
of `z` either. -/
structure Twin (y z : List Char) : Prop where
  head : y.head? = z.head?
  bare : bareLength y = 0 → bareLength z = 0
  fades : ∀ {p : Parser Unit}, Probe p → Fades p y z

theorem Twin.keeps (h : Twin y z) : Keeps y z := ⟨h.fades .body, h.fades .other⟩

theorem Twin.fades_value (h : Twin y z) : Fades value y z := fun hrefuses =>
  ((SameRefusals.finish fun _ => ()).refuses_iff z).1
    (h.fades (.value .done) (((SameRefusals.finish fun _ => ()).refuses_iff y).2 hrefuses))

/-! ## Blanks in front of twins -/

theorem refuses_blank_cons {α γ : Type} {view : α → γ} {q : Parser α} {c : Char}
    (hq : Uniform view q) (hc : Text.isGap c = true) :
    Refuses (blank >>= fun _ => q) (c :: s) ↔ Refuses (blank >>= fun _ => q) s := by
  obtain ⟨g, r, rfl, hg⟩ := exists_takes_blank s
  rw [refuses_behind hg hq, ← List.cons_append, refuses_behind ((takes_blank_cons hc).2 hg) hq]

theorem uniform_elseWord :
    Uniform unplaced (keyword "else" >>= fun _ => blank >>= fun _ => value) :=
  .seq (.take _) (.seq (.take _) (uniform_reader .value))

theorem sameRefusals_bodyPart : SameRefusals bodyPart (blank >>= fun _ => value) :=
  SameRefusals.bind fun _ => SameRefusals.finish _

theorem sameRefusals_elsePart :
    SameRefusals elsePart
      (blank >>= fun _ => keyword "else" >>= fun _ => blank >>= fun _ => value) :=
  SameRefusals.finish _

theorem Keeps.cons_gap {c : Char} (h : Keeps y z) (hc : Text.isGap c = true) :
    Keeps (c :: y) (c :: z) := by
  have hbody := h.body
  have hother := h.other
  unfold Fades at hbody hother
  rw [sameRefusals_bodyPart.refuses_iff, sameRefusals_bodyPart.refuses_iff] at hbody
  rw [sameRefusals_elsePart.refuses_iff, sameRefusals_elsePart.refuses_iff] at hother
  constructor
  · unfold Fades
    rwa [sameRefusals_bodyPart.refuses_iff, sameRefusals_bodyPart.refuses_iff,
      refuses_blank_cons (uniform_reader .value) hc,
      refuses_blank_cons (uniform_reader .value) hc]
  · unfold Fades
    rwa [sameRefusals_elsePart.refuses_iff, sameRefusals_elsePart.refuses_iff,
      refuses_blank_cons uniform_elseWord hc, refuses_blank_cons uniform_elseWord hc]

/-- Behind a gap, the body and the `else` are looked for where it ends. -/
theorem Keeps.behind {g : List Char} (hy : Takes blank g y) (hz : Takes blank g z)
    (hvalue : Fades value y z)
    (helse : Fades (keyword "else" >>= fun _ => blank >>= fun _ => value) y z) :
    Keeps (g ++ y) (g ++ z) := by
  constructor
  · unfold Fades
    rw [sameRefusals_bodyPart.refuses_iff, sameRefusals_bodyPart.refuses_iff]
    exact fades_behind (uniform_reader .value) hy hz hvalue
  · unfold Fades
    rw [sameRefusals_elsePart.refuses_iff, sameRefusals_elsePart.refuses_iff]
    exact fades_behind uniform_elseWord hy hz helse

/-- Blanks within a line are taken at once. -/
theorem refuses_space_cons {α γ : Type} {view : α → γ} {q : Parser α} {c : Char}
    (hq : Uniform view q) (hc : isSpace c = true)
    (hs : ¬Front (fun c => isSpace c = false) s) :
    Refuses (space >>= fun _ => q) (c :: s) ↔ Refuses (space >>= fun _ => q) s := by
  obtain ⟨g, r, rfl, hg⟩ : ∃ g r, s = g ++ r ∧ Takes space? g r :=
    ⟨_, _, (List.takeWhile_append_dropWhile (p := isSpace)).symm, takes_space?_iff.2
      (takeWhile_length_iff.1 (by rw [List.takeWhile_append_dropWhile]))⟩
  obtain ⟨hblank, hfront⟩ := takes_space?_iff.1 hg
  have hne : g ≠ [] := by
    rintro rfl
    exact hs hfront
  have hmore : Takes space (c :: g) r :=
    takes_space_iff.2 ⟨by simp, List.forall_mem_cons.2 ⟨hc, hblank⟩, hfront⟩
  rw [refuses_behind (takes_space_iff.2 ⟨hne, hblank, hfront⟩) hq, ← List.cons_append,
    refuses_behind hmore hq]

theorem Twin.cons_space {c : Char} (hc : isSpace c = true) (h : Twin y z) :
    Twin (c :: y) (c :: z) where
  head := rfl
  bare _ := by rcases isSpace_cases hc with rfl | rfl <;> rfl
  fades {p} hp := by
    have hgap := isGap_of_isSpace hc
    have hname : Front (fun c => isNameStart c = false) (c :: z) :=
      (front_cons _ c z).2 (isNameStart_of_isGap hgap)
    have hvalue : Refuses value (c :: z) := by
      rcases isSpace_cases hc with rfl | rfl <;>
        exact refuses_value_of_front rfl (by simp) (.inl rfl)
    induction hp with
    | done => exact fun h => absurd h (not_refuses_pure _ _)
    | body => exact (h.keeps.cons_gap hgap).body
    | other => exact (h.keeps.cons_gap hgap).other
    | @space p hp _ =>
        intro hrefuses
        by_cases hfront : Front (fun c => isSpace c = false) y
        · have htakes (s : List Char) (hs : Front (fun c => isSpace c = false) s) :
              Takes space [c] s :=
            takes_space_iff.2 ⟨by simp, by simpa using hc, hs⟩
          have hfront' := (front_congr h.head).1 hfront
          exact fades_behind hp.uniform (htakes y hfront) (htakes z hfront') (h.fades hp)
            hrefuses
        · have hfront' := mt (front_congr h.head).2 hfront
          rw [refuses_space_cons hp.uniform hc hfront] at hrefuses
          rw [refuses_space_cons hp.uniform hc hfront']
          exact h.fades (.space hp) hrefuses
    | value _ _ => exact fades_of_refuses hvalue.bind
    | word hword _ _ =>
        exact fades_of_refuses (refuses_keyword_of_name (isName_of_mem_words hword) hname).bind
    | target _ _ => exact fades_of_refuses (refuses_variableName hname).bind
    | orElse _ _ ihp ihq => exact fades_orElse ihp ihq

/-- A character that ends a value and, except for a gap, is not passed over. -/
def IsStop (c : Char) : Prop :=
  (Text.isGap c = true ∧ isSpace c = false) ∨ c ∈ ['#', ';', ',', ')', '}']

theorem IsStop.isNameStart {c : Char} (h : IsStop c) : isNameStart c = false := by
  rcases h with ⟨hgap, -⟩ | h
  · exact isNameStart_of_isGap hgap
  · fin_cases h <;> rfl

theorem IsStop.isSpace {c : Char} (h : IsStop c) : isSpace c = false := by
  rcases h with ⟨-, hspace⟩ | h
  · exact hspace
  · fin_cases h <;> rfl

theorem IsStop.bareLength {c : Char} (h : IsStop c) (s : List Char) :
    bareLength (c :: s) = 0 ∨ c = '#' := by
  rcases h with ⟨hgap, -⟩ | h
  · exact .inl (bareLength_of_isGap hgap s)
  · fin_cases h <;> first | exact .inl rfl | exact .inr rfl

theorem IsStop.refuses_value {c : Char} (h : IsStop c) (s : List Char) :
    Refuses value (c :: s) := by
  refine refuses_value_of_front h.isNameStart ?_ (h.bareLength s)
  rcases h with ⟨hgap, -⟩ | h
  · intro hmem
    fin_cases hmem <;> cases hgap
  · fin_cases h <;> decide

theorem Twin.cons_stop {c : Char} (hc : IsStop c) (h : Keeps (c :: y) (c :: z)) :
    Twin (c :: y) (c :: z) where
  head := rfl
  bare hy := by
    rcases hc.bareLength z with hz | rfl
    · exact hz
    · rw [bareLength_cons (by decide), if_neg (by decide)] at hy
      omega
  fades {p} hp := by
    have hname : Front (fun c => isNameStart c = false) (c :: z) :=
      (front_cons _ c z).2 hc.isNameStart
    induction hp with
    | done => exact fun h => absurd h (not_refuses_pure _ _)
    | body => exact h.body
    | other => exact h.other
    | space _ _ =>
        exact fades_of_refuses
          (refuses_space_of_front ((front_cons _ c z).2 hc.isSpace)).bind
    | value _ _ => exact fades_of_refuses (hc.refuses_value z).bind
    | word hword _ _ =>
        exact fades_of_refuses (refuses_keyword_of_name (isName_of_mem_words hword) hname).bind
    | target _ _ => exact fades_of_refuses (refuses_variableName hname).bind
    | orElse _ _ ihp ihq => exact fades_orElse ihp ihq

theorem Twin.fades_else (h : Twin y z) :
    Fades (keyword "else" >>= fun _ => blank >>= fun _ => value) y z := by
  by_cases hname : Front (fun c => isNameStart c = false) z
  · exact fades_of_refuses (refuses_keyword_of_name
      (isName_of_mem_reserved "else" (by simp [reserved])) hname).bind
  · have hsolid : Front IsSolid z := by
      intro c hc
      refine isSolid_of_isNameChar (isNameStart_isNameChar (by_contra fun hfalse => hname ?_))
      intro d hd
      obtain rfl : c = d := Option.mem_unique hc hd
      simpa using hfalse
    have hz := takes_blank_nil hsolid
    have hy := takes_blank_congr h.head.symm hz
    intro hrefuses
    have hother := h.fades .other
    unfold Fades at hother
    rw [sameRefusals_elsePart.refuses_iff, sameRefusals_elsePart.refuses_iff] at hother
    exact (refuses_behind hz uniform_elseWord).1
      (hother ((refuses_behind hy uniform_elseWord).2 hrefuses))

theorem Twin.append_gap {g : List Char} (hg : Takes blank g y) (h : Twin y z) :
    Twin (g ++ y) (g ++ z) := by
  induction g with
  | nil => exact h
  | cons c g ih =>
      by_cases hspace : isSpace c = true
      · exact (ih ((takes_blank_cons (isGap_of_isSpace hspace)).1 hg)).cons_space hspace
      · have hstop : IsStop c := by
          rcases takes_blank_front hg with hgap | rfl
          · exact .inl ⟨hgap, by simpa using hspace⟩
          · exact .inr (by simp)
        exact .cons_stop hstop
          (Keeps.behind hg (takes_blank_congr h.head hg) h.fades_value h.fades_else)

/-! ## Pieces in front of twins -/

/-- A probe goes into a piece by its first part. -/
theorem fades_piece (hs : Front IsSolid s) (ht : Front IsSolid t)
    (hvalue : ∀ {p : Parser Unit}, Probe p → Fades (value >>= fun _ => p) s t)
    (helse : Fades (keyword "else" >>= fun _ => blank >>= fun _ => value) s t)
    (hword : ∀ word ∈ ["in", "split"], ∀ {p : Parser Unit}, Probe p →
      Fades (keyword word >>= fun _ => space >>= fun _ => p) s t)
    (htarget : ∀ {p : Parser Unit}, Probe p →
      Fades (variableName >>= fun _ => space >>= fun _ => keyword "in" >>= fun _ =>
        space >>= fun _ => p) s t) {p : Parser Unit} (hp : Probe p) : Fades p s t := by
  have hkeeps : Keeps ([] ++ s) ([] ++ t) := by
    refine Keeps.behind (takes_blank_nil hs) (takes_blank_nil ht) (fun h => ?_) helse
    exact ((SameRefusals.finish fun _ => ()).refuses_iff t).1
      (hvalue .done (((SameRefusals.finish fun _ => ()).refuses_iff s).2 h))
  induction hp with
  | done => exact fun h => absurd h (not_refuses_pure _ _)
  | body => exact hkeeps.body
  | other => exact hkeeps.other
  | space _ _ =>
      refine fades_of_refuses (refuses_space_of_front (ht.mono fun c hc => ?_)).bind
      refine Bool.eq_false_iff.2 fun hspace => ?_
      rcases isSpace_cases hspace with rfl | rfl <;> cases hc.1
  | value hp _ => exact hvalue hp
  | word hmem hp _ => exact hword _ hmem hp
  | target hp _ => exact htarget hp
  | orElse _ _ ihp ihq => exact fades_orElse ihp ihq

section Pieces

variable {v' : Element}

/-- Behind a value that is read in front of both, the probe goes on with the twins. -/
theorem Twin.behind (h : Twin y z) (hy : Reads unplaced value w y v)
    (hz : Reads unplaced value w z v') {p : Parser Unit} (hp : Probe p) :
    Fades (value >>= fun _ => p) (w ++ y) (w ++ z) :=
  fades_behind hp.uniform hy hz (h.fades hp)

/-- A block or a quoted string. -/
theorem Twin.append_quoted {c : Char} (hc : c ∈ ['{', '"', '\'']) (h : Twin y z)
    (hy : Reads unplaced value (c :: w) y v) (hz : Reads unplaced value (c :: w) z v') :
    Twin (c :: w ++ y) (c :: w ++ z) where
  head := rfl
  bare _ := by fin_cases hc <;> rfl
  fades hp := by
    have hsolid (s : List Char) : Front IsSolid (c :: w ++ s) :=
      (front_cons _ c _).2 (by fin_cases hc <;> decide)
    have hname : Front (fun c => isNameStart c = false) (c :: w ++ z) :=
      (front_cons _ c _).2 (by fin_cases hc <;> rfl)
    exact fades_piece (hsolid y) (hsolid z) (h.behind hy hz)
      (fades_of_refuses (refuses_keyword_of_name
        (isName_of_mem_reserved "else" (by simp [reserved])) hname).bind)
      (fun word hmem _ _ => fades_of_refuses
        (refuses_keyword_of_name (isName_of_mem_words hmem) hname).bind)
      (fun _ => fades_of_refuses (refuses_variableName hname).bind) hp

/-- A word within a bare string is either all of it, or no blank follows the word. -/
theorem fades_word {α γ : Type} {view : α → γ} {u : Parser α} {q : Parser Unit}
    (hu : Uniform view u)
    (hname : ∀ {w r : List Char}, Takes u w r → ∀ c ∈ w, isNameChar c = true)
    (hcongr : ∀ {w y z : List Char}, y.head? = z.head? → Takes u w y → Takes u w z)
    (hq : Uniform id q) (hw : ∀ c ∈ w, Text.isGap c = false) (hhead : y.head? = z.head?)
    (hend : NameEnd z) (h : Fades (space >>= fun _ => q) y z) :
    Fades (u >>= fun _ => space >>= fun _ => q) (w ++ y) (w ++ z) := by
  have htail : Uniform id (space >>= fun _ => q) := .seq (.take _) hq
  intro hrefuses
  rcases hu.cases (w ++ z) with hnone | ⟨w', r, a, htext, hreads⟩
  · exact hnone.bind
  have htakes : Takes u w' r := hreads.mono fun _ _ => trivial
  rw [htext, refuses_behind htakes htail]
  rcases List.append_eq_append_iff.1 htext with ⟨x, rfl, rfl⟩ | ⟨x, rfl, rfl⟩
  · cases x with
    | nil =>
        rw [List.append_nil] at htakes
        exact h ((refuses_behind (hcongr hhead.symm htakes) htail).1 hrefuses)
    | cons c x =>
        have hc := hname htakes c (by simp)
        rw [List.cons_append, NameEnd, front_cons, hc] at hend
        cases hend
  · cases x with
    | nil =>
        rw [List.append_nil] at hrefuses
        exact h ((refuses_behind (hcongr hhead.symm htakes) htail).1 hrefuses)
    | cons c x =>
        refine (refuses_space_of_front ((front_cons _ c _).2 ?_)).bind
        refine Bool.eq_false_iff.2 fun hspace => ?_
        have hc := hw c (by simp)
        rcases isSpace_cases hspace with rfl | rfl <;> cases hc

theorem Twin.append_bare {v'' : Element} (hbare : Reads unplaced bareString w y v'')
    (h : Twin y z) (hy : Reads unplaced value w y v) (hz : Reads unplaced value w z v') :
    Twin (w ++ y) (w ++ z) := by
  obtain ⟨-, hne, hlen, hhash, hword⟩ := reads_bareString_iff.1 hbare
  obtain ⟨hy₀, hgap, -⟩ := bareLength_append hlen
  have hend : NameEnd z :=
    (front_of_bareLength (h.bare hy₀)).mono fun _ => isNameChar_of_isBareEnd
  have hpos := List.length_pos_iff.2 hne
  have hsolid : Front IsSolid (w ++ y) := by
    cases w with
    | nil => exact absurd rfl hne
    | cons c w =>
        refine (front_cons _ c _).2 ⟨hgap c (by simp), by simpa using hhash, ?_⟩
        rintro rfl
        rw [List.cons_append, bareLength_cons (by decide), if_pos (by decide)] at hlen
        omega
  refine ⟨append_head? hne y z, fun hzero => by omega, fun hp => ?_⟩
  refine fades_piece hsolid ((front_congr (append_head? hne y z)).1 hsolid)
    (h.behind hy hz) ?_ ?_ ?_ hp
  · refine fades_of_refuses (refuses_keyword (Bool.eq_false_iff.2 fun hstart => ?_)).bind
    have hmem := startsWithWord_append h.head
      (by simpa using isName_of_mem_reserved "else" (by simp [reserved])) hend hne hstart
    obtain ⟨word, hw, r, htext, hr⟩ := startsWithWord_iff.1 hmem
    obtain rfl : word = "else" := by simpa using hw
    have htrue : startsWithWord ["else", "split"] (w ++ y) = true :=
      startsWithWord_iff.2 ⟨"else", by simp, r, htext, hr⟩
    rw [hword] at htrue
    cases htrue
  · intro word hmem p hp
    refine fades_word (Alike.take _) (fun ht => ?_) (fun hhead ht => ?_) hp.uniform hgap
      h.head hend (h.fades (.space hp))
    · rw [(takes_keyword_iff.1 ht).1]
      exact (isName_of_mem_words hmem).isNameChar
    · rw [takes_keyword_iff] at ht ⊢
      rwa [← atWordEnd_congr hhead]
  · intro p hp
    have hin : Probe (keyword "in" >>= fun _ => space >>= fun _ => p) := .word (by simp) hp
    refine fades_word uniform_variableName (fun ht => ?_) (fun hhead ht => ?_) hin.uniform
      hgap h.head hend (h.fades (.space hin))
    · exact (takes_variableName_iff.1 ht).1.isNameChar
    · rw [takes_variableName_iff] at ht ⊢
      exact ⟨ht.1, (front_congr hhead).1 ht.2⟩

/-- A text that starts with a blank within its line. -/
def Spaced (s : List Char) : Prop := ∃ c r, s = c :: r ∧ isSpace c = true

theorem Spaced.nameEnd (h : Spaced s) : NameEnd s := by
  obtain ⟨c, r, rfl, hc⟩ := h
  rw [NameEnd, front_cons]
  rcases isSpace_cases hc with rfl | rfl <;> rfl

theorem Spaced.congr (h : Spaced y) (hhead : y.head? = z.head?) : Spaced z := by
  obtain ⟨c, r, rfl, hc⟩ := h
  cases z with
  | nil => simp at hhead
  | cons d z =>
      obtain rfl : c = d := by simpa using hhead
      exact ⟨c, z, rfl, hc⟩

/-- What follows the keyword of a control statement.  Behind `for` this is not a text of
pieces that are values, since any name may stand there; but `for` may itself be the
name in a loop, and then `in` follows. -/
structure Trailing (y z : List Char) : Prop where
  head : y.head? = z.head?
  spaced : Spaced y
  fades : ∀ {p : Parser Unit}, Probe p →
    Fades (space >>= fun _ => keyword "in" >>= fun _ => space >>= fun _ => p) y z

/-- Two texts that start with a name, in front of related texts. -/
def Opened (n : List Char) (T : List Char → List Char → Prop) (s t : List Char) : Prop :=
  ∃ y z, s = n ++ y ∧ t = n ++ z ∧ NameEnd y ∧ NameEnd z ∧ T y z

theorem Twin.append_control {word : String} (hword : word ∈ ["for", "if", "while"])
    (h : Twin y z) (hopened : Opened word.toList Trailing (w ++ y) (w ++ z))
    (hy : Reads unplaced value w y v) (hz : Reads unplaced value w z v') :
    Twin (w ++ y) (w ++ z) := by
  have hname := isName_of_mem_control hword
  have hvalue {p : Parser Unit} (hp : Probe p) := h.behind hy hz hp
  obtain ⟨y', z', hy', hz', hend, hend', ht⟩ := hopened
  have hne {other : String} (hmem : other ∈ ["else", "in", "split"]) : other ≠ word := by
    rintro rfl
    fin_cases hword <;> simp at hmem
  rw [hy', hz'] at hvalue ⊢
  refine ⟨append_head? hname.ne_nil _ _,
    fun hzero => absurd hzero (bareLength_name_ne_zero hname _), fun hp => ?_⟩
  refine fades_piece (isName_front_isSolid hname _) (isName_front_isSolid hname _)
    hvalue ?_ ?_ ?_ hp
  · exact fades_of_refuses (refuses_keyword_ne
      (isName_of_mem_reserved "else" (by simp [reserved])) hname (hne (by simp)) hend').bind
  · intro other hmem p hp
    exact fades_of_refuses (refuses_keyword_ne (isName_of_mem_words hmem) hname
      (hne (by revert hmem; simp only [List.mem_cons]; tauto)) hend').bind
  · intro p hp
    exact fades_behind (Probe.space (.word (by simp) hp)).uniform
      (yields_variableName hname hend) (yields_variableName hname hend') (ht.fades hp)

/-- No value starts with a word that may follow a value. -/
theorem refuses_value_word {word : String} (hword : word ∈ ["else", "split"])
    (hend : atWordEnd r = true) : Refuses value (word.toList ++ r) := by
  have hname := isName_of_mem_barred hword
  have hcontrol : Refuses (controlStatement value) (word.toList ++ r) := by
    refine refuses_control fun other hmem => ?_
    refine refuses_keyword_ne (isName_of_mem_control hmem) hname ?_
      (nameEnd_of_atWordEnd hend)
    rintro rfl
    fin_cases hword <;> simp at hmem
  have hstring : Refuses bareString (word.toList ++ r) := by
    refine Refuses.leaf (Refuses.take ?_)
    simp [startsWithWord_iff.2 ⟨word, hword, r, rfl, hend⟩]
  have hfront {c : Char} (hc : isNameStart c = false) :
      Front (fun d => d ≠ c) (word.toList ++ r) :=
    (isName_front hname r).mono fun d hd hdc => by simp [hdc ▸ hd] at hc
  rw [value_eq]
  exact (refuses_block (hfront rfl)).orElse <|
    hcontrol.orElse <|
    (Refuses.leaf (refuses_char (hfront rfl)).bind).orElse <|
    (Refuses.leaf (refuses_char (hfront rfl)).bind).orElse hstring

theorem Twin.append_word {word : String} (hword : word ∈ ["else", "split"]) (h : Twin y z)
    (hend : atWordEnd y = true) : Twin (word.toList ++ y) (word.toList ++ z) := by
  have hend' : atWordEnd z = true := (atWordEnd_congr h.head).symm.trans hend
  have hname := isName_of_mem_barred hword
  refine ⟨append_head? hname.ne_nil y z,
    fun hzero => absurd hzero (bareLength_name_ne_zero hname y), fun hp => ?_⟩
  refine fades_piece (isName_front_isSolid hname y) (isName_front_isSolid hname z)
    (fun _ => fades_of_refuses (refuses_value_word hword hend').bind) ?_ ?_ ?_ hp
  · by_cases heq : word = "else"
    · subst heq
      refine fades_behind (.seq (.take _) (uniform_reader .value)) (takes_keyword hend)
        (takes_keyword hend') ?_
      have hbody := h.fades .body
      unfold Fades at hbody
      rwa [sameRefusals_bodyPart.refuses_iff, sameRefusals_bodyPart.refuses_iff] at hbody
    · exact fades_of_refuses (refuses_keyword_ne
        (isName_of_mem_reserved "else" (by simp [reserved])) hname (Ne.symm heq)
        (nameEnd_of_atWordEnd hend')).bind
  · intro other hmem p hp
    by_cases heq : other = word
    · subst heq
      exact fades_behind (Probe.space hp).uniform (takes_keyword hend) (takes_keyword hend')
        (h.fades (.space hp))
    · exact fades_of_refuses (refuses_keyword_ne (isName_of_mem_words hmem) hname heq
        (nameEnd_of_atWordEnd hend')).bind
  · intro p hp
    have hin : Probe (space >>= fun _ => keyword "in" >>= fun _ => space >>= fun _ => p) :=
      .space (.word (by simp) hp)
    exact fades_behind hin.uniform (yields_variableName hname (nameEnd_of_atWordEnd hend))
      (yields_variableName hname (nameEnd_of_atWordEnd hend')) (h.fades hin)

end Pieces

end Grammar

end TextShell
