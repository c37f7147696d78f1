import TextShell.Proofs.Program.Locality

/-!
# Statements in front of related texts

A statement is read alike in front of two texts at which it ends, and a function in
front of any two.  Main statement: `carries_item`.
-/

namespace TextShell

namespace Grammar

open TextShell.Parser Element

variable {k : Nat} {w r s t y z : List Char} {v : Element}

/-! ## Open statements -/

/-- Nothing is assigned here. -/
def Plain (s : List Char) : Prop := Refuses (space? >>= fun _ => char '=') s

theorem plain_append {sp : List Char} (hsp : ∀ c ∈ sp, isSpace c = true)
    (hr : Front (fun c => isSpace c = false ∧ c ≠ '=') r) : Plain (sp ++ r) :=
  Refuses.of_takes_seq (takes_space?_iff.2 ⟨hsp, hr.mono fun _ hc => hc.1⟩)
    (refuses_char (hr.mono fun _ hc => hc.2))

theorem Plain.refuses_set {n : List Char} (hz : Plain z) (hn : IsName n) (hend : NameEnd z) :
    Refuses (setStatement value) (n ++ z) := by
  refine Refuses.tagged (Refuses.of_yields_bind (yields_variableName hn hend) fun _ _ => ?_)
  rw [← bind_assoc]
  exact hz.bind

/-- What follows the name of a call with its arguments on the line. -/
structure Tail (y z : List Char) : Prop where
  twin : Twin y z
  plain : Plain z
  front : Front (fun c => c ≠ '(') z

theorem Ended.tail (h : Ended y z) : Tail y z := by
  refine ⟨h.twin, ?_, ?_⟩
  all_goals obtain ⟨sp, c, y', z', hsp, hc, rfl, rfl, -⟩ := h
  · refine plain_append hsp ((front_cons _ c z').2 ⟨hc.isSpace, ?_⟩)
    rintro rfl
    rcases hc with ⟨hgap, -⟩ | hc
    · cases hgap
    · simp at hc
  · cases sp with
    | nil =>
        refine (front_cons _ c z').2 ?_
        rintro rfl
        rcases hc with ⟨hgap, -⟩ | hc
        · cases hgap
        · simp at hc
    | cons d sp =>
        refine (front_cons _ d _).2 ?_
        rcases isSpace_cases (hsp d (by simp)) with rfl | rfl <;> decide

/-- What a value does not start with. -/
theorem front_of_reads_value (h : Reads unplaced value w r v) :
    w ≠ [] ∧ Front (fun c => isSpace c = false ∧ c ≠ '=') (w ++ r) := by
  have hpos := h.pos (shortens_reader .value)
  refine ⟨List.length_pos_iff.1 hpos, ?_⟩
  cases w with
  | nil => simp at hpos
  | cons c w =>
      refine (front_cons _ c _).2 ⟨Bool.eq_false_iff.2 fun hc => h.not_refuses ?_, ?_⟩
      · rcases isSpace_cases hc with rfl | rfl <;>
          exact refuses_value_of_front rfl (by simp) (.inl rfl)
      · rintro rfl
        exact h.not_refuses (refuses_value_of_front rfl (by simp) (.inl rfl))

theorem carries_argument (hv : Carries k Twin Twin unplaced value value) :
    Carries k Tail Tail unplaced (space >>= fun _ => value) (space >>= fun _ => value) where
  alike := .seq (.take _) (uniform_reader .value)
  carry {w y z v} hk htame hyz hreads := by
    obtain ⟨sp, w', rfl, hsp, hy⟩ := Alike.reads_seq (Alike.take _) hv.alike hreads
    rw [List.length_append] at hk
    obtain ⟨hz, htwin⟩ := hv.carry (by omega) htame.right hyz.twin hy
    have hsp' := (takes_space_congr htwin.head).1 hsp
    obtain ⟨hne, hblank, -⟩ := takes_space_iff.1 hsp
    rw [List.append_assoc, List.append_assoc]
    refine ⟨Yields.seq hsp' hz, htwin.append_spaces hblank,
      plain_append hblank (front_of_reads_value hz).2, ?_⟩
    cases sp with
    | nil => exact absurd rfl hne
    | cons c sp =>
        refine (front_cons _ c _).2 ?_
        rcases isSpace_cases (hblank c (by simp)) with rfl | rfl <;> decide

theorem Tail.fades_argument (h : Tail y z) : Fades (space >>= fun _ => value) y z := by
  have hfades := h.twin.fades (.space (.value .done))
  have hsame : SameRefusals (space >>= fun _ => value >>= fun _ => (pure () : Parser Unit))
      (space >>= fun _ => value) := .bind fun _ => SameRefusals.finish _
  unfold Fades at hfades
  rwa [hsame.refuses_iff, hsame.refuses_iff] at hfades

/-- Two texts that start with the name of a function, in front of related texts. -/
def Called (T : List Char → List Char → Prop) (s t : List Char) : Prop :=
  ∃ n, IsName n ∧ startsWithWord reserved t = false ∧ Opened n T s t

theorem takes_functionName_iff :
    Takes (take fun s => if startsWithWord reserved s then none else nameLength? s) w r ↔
      startsWithWord reserved (w ++ r) = false ∧ IsName w ∧ NameEnd r := by
  rw [← takes_name_iff, takes_take_iff fun s n h => ?_,
    takes_take_iff fun s n h => (nameLength?_eq_some h).1]
  · cases startsWithWord reserved (w ++ r) <;> simp
  · split at h
    · cases h
    · exact (nameLength?_eq_some h).1

theorem carries_functionName {T : List Char → List Char → Prop}
    (hT : ∀ {y z}, T y z → y.head? = z.head?) :
    Carries k (Called T) T unplaced functionName functionName := by
  refine .leaf _ (.take fun {w y z} _ hyz hy => ?_)
  rw [takes_functionName_iff] at hy ⊢
  obtain ⟨hfree, hw, hend⟩ := hy
  have hend' : NameEnd z := (front_congr (hT hyz)).1 hend
  have hfree' : startsWithWord reserved (w ++ z) = false := by
    refine Bool.eq_false_iff.2 fun hstart => ?_
    rw [startsWithWord_append (hT hyz) isName_of_mem_reserved hend' hw.ne_nil hstart] at hfree
    cases hfree
  exact ⟨⟨hfree', hw, hend'⟩, w, hw, hfree', y, z, rfl, rfl, hend, hend', hyz⟩

theorem carries_space? {T : List Char → List Char → Prop}
    (hT : ∀ {y z}, T y z → y.head? = z.head?) :
    Carries k (fun s t => ∃ sp y z, (∀ c ∈ sp, isSpace c = true) ∧ s = sp ++ y ∧
      t = sp ++ z ∧ T y z) T id space? space? := by
  refine .take fun {w y z} _ hyz hy => ?_
  obtain ⟨hw, hfront⟩ := takes_space?_iff.1 hy
  exact ⟨takes_space?_iff.2 ⟨hw, (front_congr (hT hyz)).1 hfront⟩, w, y, z, hw, rfl, rfl, hyz⟩

/-- Two texts that start with an assignment to the same name. -/
def Assigned (s t : List Char) : Prop :=
  ∃ n sp y z, IsName n ∧ (∀ c ∈ sp, isSpace c = true) ∧ s = n ++ (sp ++ '=' :: y) ∧
    t = n ++ (sp ++ '=' :: z)

section Open

variable (hv : Carries k Twin Twin unplaced value value)

include hv

theorem carries_setStatement :
    Carries (k + 1) Assigned Twin unplaced (setStatement value) (setStatement value) := by
  have hname : Carries (k + 1) Assigned (fun s t => ∃ sp y z, (∀ c ∈ sp, isSpace c = true) ∧
      s = sp ++ y ∧ t = sp ++ z ∧ Before '=' y z) unplaced variableName variableName := by
    refine .leaf _ (.take fun {w _ _} _ hyz hy => ?_)
    obtain ⟨sp, _, _, hsp, rfl, rfl, y, z, rfl, rfl⟩ := hyz
    rw [takes_name_iff] at hy ⊢
    refine ⟨⟨hy.1, (front_congr ?_).1 hy.2⟩, w, sp, y, z, hy.1, hsp, rfl, rfl⟩
    cases sp <;> rfl
  exact .tagged .setStmt <|
    hname.bind_succ shortens_variableName fun _ _ htarget =>
    .seq (carries_space? Before.heads) <|
    .seq (carries_char '=') <|
    .seq ((carries_space? Twin.head).mono (fun _ _ h => h) fun _ _ _ => trivial) <|
    hv.bind fun _ _ hheld => .pure (by simp [htarget, hheld])

theorem carries_optionalValue (tag : Tag) {word : String} (hword : word.toList ≠ []) :
    Carries (k + 1) (Opened word.toList Tail) Tail unplaced (optionalValue value tag word)
      (optionalValue value tag word) := by
  have heq : optionalValue value tag word = tagged tag (keyword word >>= fun _ =>
      (((space >>= fun _ => value) >>= fun held => pure [held]) <|> pure [])) := by
    simp only [optionalValue, bind_assoc]
  rw [heq]
  exact .tagged tag <|
    .seq_succ (carries_keyword fun h => h.twin.head) (shortens_keyword hword) <|
    .orElse ((carries_argument hv).bind fun _ _ hheld => .pure (by simp [hheld])) (.pure rfl)
      fun {w y z} hyz htakes _ hy => by
        obtain rfl := takes_pure htakes
        rw [(SameRefusals.finish _).refuses_iff] at hy ⊢
        exact hyz.fades_argument hy

theorem carries_shellCall :
    Carries (k + 1) (Called Tail) Tail unplaced (shellCall value) (shellCall value) := by
  rw [shellCall_eq]
  exact .tagged .call <|
    (carries_functionName fun h => h.twin.head).bind_succ shortens_functionName
    fun _ _ hname =>
    ((carries_argument hv).exhaust (shortens_space.bind fun _ => shortens_reader _)
      (fun h => h) Tail.fades_argument).bind fun _ _ harguments =>
    .pure (by simp [hname, harguments])

end Open

theorem carries_blank_closing (c : Char) :
    Carries k (Closing blank c) (Before c) id blank blank := by
  refine .take fun {w y z} _ hyz hy => ?_
  have hz := takes_blank_congr hyz.heads hy
  obtain ⟨y, z, rfl, rfl⟩ := hyz
  exact ⟨hz, w, y, z, rfl, rfl, hy, hz⟩

theorem carries_blank_heads : Carries k Heads Heads id blank blank := by
  refine .take fun {w y z} _ hyz hy => ⟨takes_blank_congr hyz hy, ?_⟩
  cases w with
  | nil => exact hyz
  | cons c w => exact rfl

theorem Closing.twin {c : Char} (hc : IsStop c) (hsolid : IsSolid c)
    (h : Closing blank c s t) : Twin s t := by
  obtain ⟨g, y, z, rfl, rfl, hy, -⟩ := h
  have hstart := hc.started y z
  have hnil (s : List Char) : Takes blank [] (c :: s) :=
    takes_blank_nil ((front_cons _ c s).2 hsolid)
  exact (Twin.cons_stop hc
    (Keeps.behind (hnil y) (hnil z) hstart.value hstart.other)).append_gap hy

/-- What stands between two items of a list in parentheses. -/
def comma : Parser Unit := blank >>= fun _ => char ',' >>= fun _ => blank

theorem shortens_comma_pos : Shortens 1 comma :=
  shortens_blank.bind fun _ => (shortens_char ',').bind_left fun _ => shortens_blank

theorem carries_comma {S : List Char → List Char → Prop}
    (hclosing : ∀ y z, Closing blank ',' y z → S y z) (hS : ∀ y z, S y z → Heads y z) :
    Carries k S S id comma comma :=
  .seq ((carries_blank_closing ',').mono (fun _ _ h => h) hclosing) <|
    .seq (carries_char ',') <|
    carries_blank_heads.mono hS fun _ _ _ => trivial

/-- A list in parentheses.  What may follow an item is a matter of the items. -/
theorem carries_list {S : List Char → List Char → Prop} {p : Parser Element}
    (hp : Carries k S S unplaced p p) (hshort : Shortens 0 p)
    (hclosing : ∀ c ∈ [',', ')'], ∀ y z, Closing blank c y z → S y z)
    (hS : ∀ y z, S y z → Heads y z)
    (hfades : ∀ {y z}, Closing blank ')' y z → Fades p y z) :
    Carries k Heads (Closing blank ')') (List.map unplaced) (sepBy p comma <|> pure [])
      (sepBy p comma <|> pure []) := by
  have hitems : Carries k S (Closing blank ')') (List.map unplaced) (sepBy p comma)
      (sepBy p comma) := by
    refine hp.sepBy (carries_comma (hclosing ',' (by simp)) hS)
      (shortens_comma_pos.bind_left fun _ => hshort) (hclosing ')' (by simp) _ _) ?_
    rintro _ _ ⟨g, y, z, rfl, rfl, -, hz⟩
    exact fades_of_refuses (Refuses.of_takes_seq hz (refuses_char (by simp)).bind).bind
  refine .orElse (hitems.mono (fun _ _ h => h) hS)
    ((Carries.pure rfl).mono (fun _ _ h => h) fun _ _ h => h.heads) ?_
  intro w y z hyz htakes _ hy
  obtain rfl := takes_pure htakes
  rw [(SameRefusals.sepBy p comma).refuses_iff] at hy ⊢
  exact hfades hyz hy

theorem carries_parenCall (hv : Carries k Twin Twin unplaced value value) :
    Carries (k + 1) (Called (Before '(')) Any unplaced (parenCall value) (parenCall value) := by
  have hclosing (c : Char) (hc : c ∈ [',', ')']) (y z : List Char)
      (h : Closing blank c y z) : Twin y z := by
    refine h.twin (.inr ?_) ?_
    · revert hc
      simp only [List.mem_cons]
      tauto
    · fin_cases hc <;> decide
  have hlist := carries_list hv (shortens_reader _).weaken hclosing (fun _ _ h => h.head)
    fun h => (hclosing _ (by simp) _ _ h).fades_value
  exact .tagged .call <|
    (carries_functionName Before.heads).bind_succ shortens_functionName fun _ _ hname =>
    .seq (carries_char '(') <|
    .seq (carries_blank_heads.mono (fun _ _ h => h) fun _ _ _ => trivial) <|
    hlist.bind fun _ _ harguments =>
    .seq (carries_blank_closing ')') <| .seq (carries_char ')') <|
    .pure (by simp [hname, harguments])

/-! ## Functions -/

/-- The length of a parameter at the start of a text. -/
def paramLength? (s : List Char) : Option Nat :=
  match s with
  | '%' :: rest => (nameLength? rest).map (· + 1)
  | _ => nameLength? s

theorem nameLength?_congr (h : y.head? = z.head?)
    (hy : nameLength? (w ++ y) = some w.length) : nameLength? (w ++ z) = some w.length := by
  obtain ⟨-, hw, hr⟩ := nameLength?_eq_some hy
  rw [List.take_left] at hw
  rw [List.drop_left] at hr
  exact nameLength?_append hw ((front_congr h).1 hr)

theorem paramLength?_congr (h : y.head? = z.head?)
    (hy : paramLength? (w ++ y) = some w.length) : paramLength? (w ++ z) = some w.length := by
  cases w with
  | nil =>
      unfold paramLength? at hy
      split at hy
      · obtain ⟨m, -, hm⟩ := Option.map_eq_some_iff.1 hy
        cases hm
      · exact absurd rfl (nameLength?_eq_some hy).2.1.ne_nil
  | cons c w =>
      by_cases hc : c = '%'
      · subst hc
        obtain ⟨m, hm, hlen⟩ := Option.map_eq_some_iff.1 hy
        obtain rfl := Nat.succ.inj hlen
        exact Option.map_eq_some_iff.2 ⟨_, nameLength?_congr h hm, rfl⟩
      · have hparam (r : List Char) : paramLength? (c :: w ++ r) = nameLength? (c :: w ++ r) := by
          simp [paramLength?, hc]
        rw [hparam] at hy ⊢
        exact nameLength?_congr h hy

theorem carries_formalParam : Carries k Heads Heads unplaced formalParam formalParam := by
  have hle (s : List Char) (n : Nat) (h : paramLength? s = some n) : n ≤ s.length := by
    unfold paramLength? at h
    split at h
    · obtain ⟨m, hm, rfl⟩ := Option.map_eq_some_iff.1 h
      exact Nat.succ_le_succ (nameLength?_eq_some hm).1
    · exact (nameLength?_eq_some h).1
  refine .leaf _ (.take fun {w y z} _ hyz hy => ?_)
  have hy' := (takes_take_iff hle).1 hy
  refine ⟨(takes_take_iff hle).2 (paramLength?_congr hyz hy'), ?_⟩
  cases w with
  | nil => exact hyz
  | cons c w => exact rfl

theorem carries_space_heads : Carries k Heads Heads id space space := by
  refine .take fun {w y z} _ hyz hy => ⟨(takes_space_congr hyz).1 hy, ?_⟩
  exact append_head? (takes_space_iff.1 hy).1 y z

theorem Called.heads {T : List Char → List Char → Prop} (h : Called T s t) : Heads s t := by
  obtain ⟨n, hn, -, y, z, rfl, rfl, -⟩ := h
  exact append_head? hn.ne_nil y z

/-- A function is read in front of any text. -/
theorem carries_functionRule (hx : Carries k Started Ended unplaced execution execution) :
    Carries (k + 1) (Opened "fn".toList Heads) Any unplaced (functionRule execution)
      (functionRule execution) := by
  have hlist : Carries k Heads (Closing blank ')') (List.map unplaced)
      (sepBy formalParam comma <|> pure []) (sepBy formalParam comma <|> pure []) := by
    refine carries_list carries_formalParam shortens_formalParam (fun _ _ _ _ h => h.heads)
      (fun _ _ h => h) ?_
    rintro _ _ ⟨g, y, z, rfl, rfl, -, hz⟩
    refine fades_of_refuses (refuses_formalParam ?_)
    cases g with
    | nil => exact (front_cons _ ')' z).2 ⟨rfl, by decide⟩
    | cons c g =>
        refine (front_cons _ c _).2 ?_
        rcases takes_blank_front hz with hgap | rfl
        · refine ⟨isNameStart_of_isGap hgap, ?_⟩
          rintro rfl
          cases hgap
        · exact ⟨rfl, by decide⟩
  have hblock := (carries_block hx).of_le (Nat.le_succ k)
  exact .tagged .function <|
    .seq_succ (carries_keyword fun h => h) (shortens_keyword (by simp)) <|
    .seq carries_space_heads <|
    ((carries_functionName fun h => h).mono (fun _ _ h => h) fun _ _ h => h.heads).bind
      fun _ _ hname =>
    .seq (carries_blank_heads.mono (fun _ _ h => h.heads) fun _ _ h => h) <|
    .seq (carries_char '(') <|
    .seq (carries_blank_heads.mono (fun _ _ h => h) fun _ _ _ => trivial) <|
    hlist.bind fun _ _ hparams =>
    .seq (carries_blank_closing ')') <| .seq (carries_char ')') <|
    .seq (carries_blank_heads.mono (fun _ _ h => h.heads) fun _ _ _ => trivial) <|
    hblock.bind fun _ _ hbody => .pure (by simp [hname, hparams, hbody])

/-! ## Statements -/

/-- Two texts at which the same statement starts. -/
structure Begun (s t : List Char) : Prop extends Started s t where
  function : Refuses (functionRule execution) t

theorem not_refuses_bareString (hlen : bareLength s ≠ 0) (hhash : s.head? ≠ some '#')
    (hword : startsWithWord ["else", "split"] s = false) : ¬ Refuses bareString s := by
  obtain ⟨w, r, rfl, hw⟩ : ∃ w r, s = w ++ r ∧ bareLength s = w.length := by
    have hle := bareLength_le s
    refine ⟨s.take (bareLength s), s.drop (bareLength s), (List.take_append_drop _ s).symm, ?_⟩
    rw [List.length_take, Nat.min_eq_left hle]
  refine Yields.not_refuses (reads_bareString_iff.2 ⟨rfl, ?_, hw, hhash, hword⟩)
  rintro rfl
  exact hlen hw

/-- A name is a value, unless it is a word that no value starts with. -/
theorem not_refuses_value_name {n : List Char} (hn : IsName n)
    (h : startsWithWord ["else", "split"] (n ++ r) = false) : ¬ Refuses value (n ++ r) := by
  intro hrefuses
  have hhash : (n ++ r).head? ≠ some '#' := by
    cases n with
    | nil => exact absurd rfl hn.ne_nil
    | cons c n =>
        rw [List.cons_append, List.head?_cons, Ne, Option.some_inj]
        rintro rfl
        cases hn.1
  rw [value_eq] at hrefuses
  simp only [valueRule, refuses_orElse_iff] at hrefuses
  exact not_refuses_bareString (bareLength_name_ne_zero hn r) hhash h hrefuses.2.2.2.2

/-- A statement that starts with a name. -/
theorem started_of_name {n : List Char} (hn : IsName n) (hy : NameEnd y)
    (hhead : y.head? = z.head?)
    (hother : Refuses (keyword "else" >>= fun _ => blank >>= fun _ => value) (n ++ z)) :
    Started (n ++ y) (n ++ z) where
  head := append_head? hn.ne_nil y z
  value hrefuses := by
    cases hstart : startsWithWord ["else", "split"] (n ++ y) with
    | false => exact absurd hrefuses (not_refuses_value_name hn hstart)
    | true =>
        obtain ⟨hmem, hend⟩ := (startsWithWord_name
          (fun _ hword => (isName_of_mem_barred hword).isNameChar) hn.isNameChar hy).1 hstart
        rw [atWordEnd_congr hhead] at hend
        simpa using refuses_value_word hmem hend
  other := fades_of_refuses hother

/-- Two texts that start with the same word, none of those that matter. -/
theorem begun_of_name {n : List Char} (hn : IsName n) (hy : NameEnd y)
    (hhead : y.head? = z.head?)
    (hword : ∀ word ∈ ["else", "fn"], Refuses (keyword word) (n ++ z)) :
    Begun (n ++ y) (n ++ z) where
  toStarted := started_of_name hn hy hhead (hword "else" (by simp)).bind
  function := Refuses.tagged (hword "fn" (by simp)).bind

theorem atWordEnd_assigned {sp : List Char} (hsp : ∀ c ∈ sp, isSpace c = true)
    (z : List Char) : atWordEnd (sp ++ '=' :: z) = true := by
  rw [atWordEnd_iff]
  cases sp with
  | nil => exact (front_cons _ '=' z).2 rfl
  | cons c sp =>
      refine (front_cons _ c _).2 ?_
      rcases isSpace_cases (hsp c (by simp)) with rfl | rfl <;> rfl

/-- What a keyword needs behind it is not found in front of `=`. -/
theorem refuses_assigned {α : Type} {word : String} {q : Parser α} {n sp : List Char}
    (hword : word ∈ reserved) (hn : IsName n) (hsp : ∀ c ∈ sp, isSpace c = true)
    (hq : Refuses q (sp ++ '=' :: z)) :
    Refuses (keyword word >>= fun _ => q) (n ++ (sp ++ '=' :: z)) := by
  have hend := atWordEnd_assigned hsp z
  by_cases heq : word = String.ofList n
  · have htext : word.toList = n := by rw [heq, String.toList_ofList]
    rw [← htext]
    exact Refuses.of_takes_seq (takes_keyword hend) hq
  · have hname := isName_of_mem_reserved word hword
    have hother : IsName (String.ofList n).toList := by rwa [String.toList_ofList]
    have hrefuses := refuses_keyword_ne hname hother heq (nameEnd_of_atWordEnd hend)
    rw [String.toList_ofList] at hrefuses
    exact hrefuses.bind

theorem refuses_space_assigned {α : Type} {p : Parser α} {sp : List Char}
    (hsp : ∀ c ∈ sp, isSpace c = true) (hp : Refuses p ('=' :: z)) :
    Refuses (space >>= fun _ => p) (sp ++ '=' :: z) := by
  cases sp with
  | nil => exact (refuses_space_of_front ((front_cons _ '=' z).2 rfl)).bind
  | cons c sp =>
      exact Refuses.of_takes_seq
        (takes_space_iff.2 ⟨by simp, hsp, (front_cons _ '=' z).2 rfl⟩) hp

theorem refuses_value_assigned (z : List Char) : Refuses value ('=' :: z) :=
  refuses_value_of_front rfl (by simp) (.inl rfl)

theorem Assigned.refuses_control (h : Assigned s t) : Refuses (controlStatement value) t := by
  obtain ⟨n, sp, y, z, hn, hsp, rfl, rfl⟩ := h
  have hvalue := refuses_value_assigned z
  have hname : Refuses variableName ('=' :: z) :=
    refuses_variableName ((front_cons _ '=' z).2 rfl)
  have hkeyed {word : String} {p : Parser (Tag × List Element)} (hword : word ∈ reserved)
      (hp : Refuses p (sp ++ '=' :: z)) : Refuses (keyed word p) (n ++ (sp ++ '=' :: z)) :=
    Refuses.element (refuses_assigned hword hn hsp hp)
  rw [controlStatement_eq]
  exact (hkeyed (by simp [reserved]) (refuses_space_assigned hsp hname.bind)).orElse <|
    (hkeyed (by simp [reserved]) (refuses_space_assigned hsp hvalue.bind)).orElse <|
    hkeyed (by simp [reserved]) (refuses_space_assigned hsp hvalue.bind)

theorem Assigned.begun (h : Assigned s t) : Begun s t := by
  obtain ⟨n, sp, y, z, hn, hsp, rfl, rfl⟩ := h
  have hblank : Takes blank sp ('=' :: z) :=
    takes_blank (fun c hc => isGap_of_isSpace (hsp c hc)) ((front_cons _ '=' z).2 (by decide))
  refine ⟨started_of_name hn ?_ ?_ ?_, Refuses.tagged ?_⟩
  · exact nameEnd_of_atWordEnd (atWordEnd_assigned hsp y)
  · cases sp <;> rfl
  · exact refuses_assigned (by simp [reserved]) hn hsp
      (Refuses.of_takes_seq hblank (refuses_value_assigned z))
  · refine refuses_assigned (by simp [reserved]) hn hsp (refuses_space_assigned hsp ?_)
    exact (refuses_functionName ((front_cons _ '=' z).2 rfl)).bind

/-- No rule that starts with a reserved word reads a call. -/
theorem Called.refuses_keyword {T : List Char → List Char → Prop} {word : String}
    (h : Called T s t) (hword : word ∈ reserved) : Refuses (keyword word) t := by
  obtain ⟨n, -, hfree, -⟩ := h
  refine Parser.refuses_keyword (Bool.eq_false_iff.2 fun hstart => ?_)
  obtain ⟨word', hmem, htext⟩ := startsWithWord_iff.1 hstart
  obtain rfl := List.mem_singleton.1 hmem
  rw [startsWithWord_iff.2 ⟨word', hword, htext⟩] at hfree
  cases hfree

theorem Opened.refuses_set {T : List Char → List Char → Prop} {n : List Char}
    (h : Opened n T s t) (hn : IsName n) (hT : ∀ {y z}, T y z → Plain z) :
    Refuses (setStatement value) t := by
  obtain ⟨y, z, -, rfl, -, hend, hyz⟩ := h
  exact (hT hyz).refuses_set hn hend

theorem Before.plain (h : Before '(' s t) : Plain t := by
  obtain ⟨y, z, -, rfl⟩ := h
  have hfront : Front (fun c => isSpace c = false ∧ c ≠ '=') ('(' :: z) :=
    (front_cons _ '(' z).2 ⟨rfl, by decide⟩
  have hplain : Plain ([] ++ '(' :: z) := plain_append (by simp) hfront
  exact hplain

theorem Called.refuses_parenCall (h : Called Tail s t) : Refuses (parenCall value) t := by
  obtain ⟨n, hn, hfree, y, z, -, rfl, -, hend, hyz⟩ := h
  have hname : Yields functionName n z (IsElement .functionName n []) :=
    Yields.leaf _ (takes_functionName_iff.2 ⟨hfree, hn, hend⟩)
  exact Refuses.tagged (Refuses.of_yields_bind hname fun _ _ => (refuses_char hyz.front).bind)

theorem isName_of_mem_return {word : String} (h : word ∈ ["return", "clear"]) :
    IsName word.toList := by
  refine isName_of_mem_reserved word ?_
  revert h
  simp only [reserved, List.mem_cons]
  tauto

/-- How an open statement starts. -/
inductive Leads (s t : List Char) : Prop
  | assignment (h : Assigned s t)
  | word {word : String} (hword : word ∈ ["return", "clear"]) (h : Opened word.toList Tail s t)
  | closedCall (h : Called (Before '(') s t)
  | openCall (h : Called Tail s t)

theorem carries_openStatement (hv : Carries k Twin Twin unplaced value value) :
    Carries (k + 1) Leads Ended unplaced (openStatement value) (openStatement value) := by
  have hend (y z : List Char) (h : Ended y z) : Tail y z := h.tail
  refine (((carries_setStatement hv).mono (fun _ _ h => h.twin) fun _ _ h => h).orElse_cases
    (((carries_optionalValue hv _ (by simp)).mono hend fun _ _ h => h).orElse_cases
    (((carries_optionalValue hv _ (by simp)).mono hend fun _ _ h => h).orElse_cases
    (((carries_parenCall hv).mono (fun _ _ _ => trivial) fun _ _ h => h).orElse_cases
    ((carries_shellCall hv).mono hend fun _ _ h => h) ?_) ?_) ?_) ?_).mono
    (fun _ _ h => h) ?_
  · exact fun _ _ h _ => h.refuses_parenCall
  · rintro w y z - - (h | h) -
    · exact Refuses.tagged (h.refuses_keyword (by simp [reserved])).bind
    · exact Refuses.tagged (h.refuses_keyword (by simp [reserved])).bind
  · rintro w y z - - (h | h | h) -
    · exact Refuses.tagged
        (h.refuses_keyword (isName_of_mem_return (by simp)) (isName_of_mem_return (by simp)) (by simp)).bind
    · exact Refuses.tagged (h.refuses_keyword (by simp [reserved])).bind
    · exact Refuses.tagged (h.refuses_keyword (by simp [reserved])).bind
  · rintro w y z - - (h | h | ⟨n, hn, -, h⟩ | ⟨n, hn, -, h⟩) -
    · exact h.refuses_set (isName_of_mem_return (by simp)) Tail.plain
    · exact h.refuses_set (isName_of_mem_return (by simp)) Tail.plain
    · exact h.refuses_set hn Before.plain
    · exact h.refuses_set hn Tail.plain
  · rintro s t (h | h | h | h | h)
    · exact .assignment h
    · exact .word (by simp) h
    · exact .word (by simp) h
    · exact .closedCall h
    · exact .openCall h

theorem Called.begun {T : List Char → List Char → Prop} (h : Called T s t)
    (hT : ∀ {y z}, T y z → y.head? = z.head?) : Begun s t := by
  have hword {word : String} (hmem : word ∈ reserved) := h.refuses_keyword hmem
  obtain ⟨n, hn, -, y, z, rfl, rfl, hend, -, hyz⟩ := h
  refine begun_of_name hn hend (hT hyz) fun word hmem => hword ?_
  revert hmem
  simp only [reserved, List.mem_cons]
  tauto

theorem Opened.begun {T : List Char → List Char → Prop} {word : String}
    (h : Opened word.toList T s t) (hword : word ∈ ["for", "if", "while", "return", "clear"])
    (hT : ∀ {y z}, T y z → y.head? = z.head?) : Begun s t := by
  have hmem : word ∈ reserved ∧ word ∉ ["else", "fn"] := by
    fin_cases hword <;> simp [reserved]
  have hname := isName_of_mem_reserved word hmem.1
  have hother {other : String} (hbarred : other ∈ ["else", "fn"]) : Refuses (keyword other) t := by
    refine h.refuses_keyword (isName_of_mem_reserved other ?_) hname ?_
    · revert hbarred
      simp only [reserved, List.mem_cons]
      tauto
    · rintro rfl
      exact hmem.2 hbarred
  obtain ⟨y, z, rfl, rfl, hend, -, hyz⟩ := h
  exact begun_of_name hname hend (hT hyz) fun _ => hother

theorem Leads.begun (h : Leads s t) : Begun s t := by
  cases h with
  | assignment h => exact h.begun
  | word hword h =>
      refine h.begun ?_ fun h => h.twin.head
      revert hword
      simp only [List.mem_cons]
      tauto
  | closedCall h => exact h.begun Before.heads
  | openCall h => exact h.begun fun h => h.twin.head

theorem Called.refuses_control {T : List Char → List Char → Prop} (h : Called T s t) :
    Refuses (controlStatement value) t := by
  refine Grammar.refuses_control fun word hword => h.refuses_keyword ?_
  revert hword
  simp only [reserved, List.mem_cons]
  tauto

theorem Leads.refuses_control (h : Leads s t) : Refuses (controlStatement value) t := by
  cases h with
  | assignment h => exact h.refuses_control
  | word hword h =>
      refine Grammar.refuses_control fun other hother => ?_
      refine h.refuses_keyword (isName_of_mem_control hother) (isName_of_mem_return hword) ?_
      rintro rfl
      fin_cases hword <;> simp at hother
  | closedCall h => exact h.refuses_control
  | openCall h => exact h.refuses_control

theorem Leads.refuses_block (h : Leads s t) : Refuses (block execution) t := by
  cases h with
  | assignment h =>
      obtain ⟨n, sp, y, z, hn, -, -, rfl⟩ := h
      exact refuses_block_name hn
  | word hword h => exact h.refuses_block (isName_of_mem_return hword)
  | closedCall h =>
      obtain ⟨n, hn, -, h⟩ := h
      exact h.refuses_block hn
  | openCall h =>
      obtain ⟨n, hn, -, h⟩ := h
      exact h.refuses_block hn

theorem Before.begun (h : Before '{' s t) (hx : ¬ Refuses execution s) : Begun s t := by
  obtain ⟨y, z, rfl, rfl⟩ := h
  have hfront (r : List Char) : Front (fun c => isNameStart c = false) ('{' :: r) :=
    (front_cons _ '{' r).2 rfl
  have hword {word : String} (hmem : word ∈ reserved) : Refuses (keyword word) ('{' :: z) :=
    refuses_keyword_of_name (isName_of_mem_reserved word hmem) (hfront z)
  refine ⟨⟨rfl, fun hvalue => absurd ?_ hx, ?_⟩, ?_⟩
  · rw [value_eq, valueRule, refuses_orElse_iff] at hvalue
    exact refuses_execution_of_block (hfront y) hvalue.1
  · exact fades_of_refuses (hword (by simp [reserved])).bind
  · exact Refuses.tagged (hword (by simp [reserved])).bind

/-- One more character of a statement. -/
theorem carries_execution_succ (hv : Carries k Twin Twin unplaced value value)
    (hx : Carries k Started Ended unplaced execution execution) :
    Carries (k + 1) Begun Ended unplaced execution execution where
  alike := uniform_reader .execution
  carry {w y z v} hk htame hyz hy := by
    have hrule : Carries (k + 1) (fun s t => Before '{' s t ∨ Controlled s t ∨ Leads s t) Ended
        unplaced (executionRule value execution) (executionRule value execution) := by
      refine ((carries_block hx).mono (fun _ _ _ => trivial) fun _ _ h => h).orElse_cases
        (((carries_controlStatement hv).mono (fun _ _ h => h.twin) fun _ _ h => h).orElse_cases
        (carries_openStatement hv) ?_) ?_
      · exact fun _ _ h _ => h.refuses_control
      · rintro w y z - - (⟨word, hword, h⟩ | h) -
        · exact h.refuses_block (isName_of_mem_control hword)
        · exact h.refuses_block
    have hexecution := hy.not_refuses
    rw [execution_eq] at hy ⊢
    obtain ⟨hz, hstart⟩ := hrule.carry hk htame hyz hy
    refine ⟨hz, ?_⟩
    rcases hstart with h | ⟨word, hword, h⟩ | h
    · exact h.begun hexecution
    · refine h.begun ?_ Trailing.head
      revert hword
      simp only [List.mem_cons]
      tauto
    · exact h.begun

/-! ## Texts of any length -/

theorem carries_reader (k : Nat) :
    Carries k Twin Twin unplaced value value ∧
      Carries k Started Ended unplaced execution execution := by
  induction k with
  | zero =>
      exact ⟨.of_shortens (uniform_reader _) (shortens_reader _),
        .of_shortens (uniform_reader _) (shortens_reader _)⟩
  | succ k ih =>
      obtain ⟨hv, hx⟩ := ih
      exact ⟨carries_value_succ hv hx,
        (carries_execution_succ hv hx).mono (fun _ _ h => h) fun _ _ h => h.toStarted⟩

theorem Opened.started (h : Opened "fn".toList Heads s t) : Started s t := by
  have helse := h.refuses_keyword (isName_of_mem_reserved "else" (by simp [reserved]))
    (isName_of_mem_reserved "fn" (by simp [reserved])) (by simp)
  obtain ⟨y, z, rfl, rfl, hend, -, hyz⟩ := h
  exact started_of_name (isName_of_mem_reserved "fn" (by simp [reserved])) hend hyz helse.bind

/-- An item of a source is read alike in front of any two texts at which it ends. -/
theorem carries_item : Carries k Started Ended unplaced item item := by
  obtain ⟨hv, hx⟩ := carries_reader k
  refine ((((carries_functionRule hx).mono (fun _ _ _ => trivial) fun _ _ h => h).orElse_cases
    (carries_execution_succ hv hx) ?_).mono (fun _ _ h => h) ?_).of_le (Nat.le_succ k)
  · exact fun _ _ h _ => h.function
  · rintro s t (h | h)
    · exact h.started
    · exact h.toStarted

end Grammar

end TextShell
