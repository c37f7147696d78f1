import TextShell.Proofs.Program.Source

/-!
# Sources in a row

Two sources with a line end between them are mostly read as one after the other, but
not always: the first may end in blanks that end no statement, in a comment that is
only cut at a `;` as long as no line follows, or in words that turn into the head of a
loop or a conditional once there is a value on the next line.

Whether any of this is the case shows as soon as a single word is put behind it.  A
word is both a statement and a value, so that nothing that follows it finds more in
front of another source than in front of a word.

## Main results

* `Lead.append` — a text that is complete in front of a word is so in front of any source.
* `Program.composes_iff` — a source composes with all sources if it does with a word.
-/

namespace TextShell

namespace Parser

variable {α β γ : Type} {a r s w : List Char}

/-! ## Gaps that end in a line end -/

/-- Behind a line end no comment is open. -/
theorem gapLength_newline {extra : Char → Bool} {inComment : Bool}
    (h : a.length < gapLength extra inComment (a ++ '\n' :: r)) (s : List Char) :
    gapLength extra inComment (a ++ '\n' :: s) = a.length + 1 + gapLength extra false s := by
  induction a generalizing inComment with
  | nil =>
      have hgap : Text.isGap '\n' = true := rfl
      rw [List.nil_append, gapLength]
      cases inComment <;> simp [hgap]
  | cons c a ih =>
      have hnext {b : Bool} (hb : a.length + 1 < 1 + gapLength extra b (a ++ '\n' :: r)) :
          1 + gapLength extra b (a ++ '\n' :: s) =
            a.length + 1 + 1 + gapLength extra false s := by
        rw [ih (by omega)]
        omega
      rw [List.cons_append, gapLength, List.length_cons] at h ⊢
      split_ifs at h ⊢
      all_goals first | exact hnext h | omega

/-- A gap up to a line end goes on with the gap behind it. -/
theorem gapLength_append_newline {extra : Char → Bool} {g : List Char}
    (h : gapLength extra false (a ++ ['\n'] ++ r) = (a ++ ['\n']).length)
    (hg : gapLength extra false (g ++ s) = g.length) :
    gapLength extra false (a ++ '\n' :: g ++ s) = (a ++ '\n' :: g).length := by
  rw [List.append_assoc, List.singleton_append, List.length_append, List.length_singleton] at h
  rw [List.append_assoc, List.cons_append, gapLength_newline (r := r) (by omega) (g ++ s), hg,
    List.length_append, List.length_cons]
  omega

theorem takes_gap_newline {g : List Char} (h : Takes gap (a ++ ['\n']) r)
    (hg : Takes gap g s) : Takes gap (a ++ '\n' :: g) s :=
  takes_gap_iff.2 (gapLength_append_newline (takes_gap_iff.1 h) (takes_gap_iff.1 hg))

theorem takes_blank_newline {g : List Char} (h : Takes blank (a ++ ['\n']) r)
    (hg : Takes blank g s) : Takes blank (a ++ '\n' :: g) s :=
  takes_blank_iff.2 (gapLength_append_newline (takes_blank_iff.1 h) (takes_blank_iff.1 hg))

/-- What starts a line and is no gap itself is not part of one. -/
theorem not_takes_gap_newline {c : Char} (hc : gapLength (· == ';') false [c] = 0) :
    ¬ Takes gap (a ++ ['\n', c]) [] := by
  intro h
  rw [takes_gap_iff, List.append_nil, List.length_append] at h
  have hline := gapLength_newline (a := a) (r := [c]) (by rw [h]; simp) [c]
  rw [h, hc] at hline
  simp at hline

/-- A text with a line end at its end leaves no comment open. -/
theorem tame_newline (a r : List Char) : Tame (a ++ ['\n']) r := by
  intro b d hsplit hd
  obtain ⟨d', e, rfl⟩ := (List.eq_nil_or_concat d).resolve_left (List.ne_nil_of_mem hd)
  rw [List.concat_eq_append, ← List.cons_append, ← List.append_assoc] at hsplit
  obtain ⟨-, he⟩ := List.append_inj' hsplit rfl
  obtain rfl : '\n' = e := by simpa using he
  simp

/-! ## How texts end -/

/-- Whatever the parser takes ends in `c`. -/
def EndsIn (c : Char) (p : Parser α) : Prop :=
  ∀ at_ a stop, p at_ = some (a, stop) → c :: stop.rest <:+ at_.rest

namespace EndsIn

variable {c : Char} {p : Parser α}

theorem char (c : Char) : EndsIn c (char c) := by
  intro at_ a stop h
  obtain ⟨n, hn, rfl⟩ := take_eq_some.1 h
  split at hn
  · next hhead =>
    obtain rfl := Option.some.inj hn
    obtain ⟨r, hr⟩ := List.head?_eq_some_iff.1 hhead
    rw [Cursor.skip_rest, hr]
    exact List.suffix_refl _
  · cases hn

theorem bind {view : α → γ} {f : α → Parser β} (hp : Uniform view p)
    (hf : ∀ a, EndsIn c (f a)) : EndsIn c (p >>= f) := by
  intro at_ b stop h
  obtain ⟨a, mid, ha, hb⟩ := bind_eq_some.1 h
  obtain ⟨w, r, hrest, rfl, -⟩ := hp.reads ha
  have hmid : (at_.skip w.length).rest <:+ at_.rest := by
    rw [Cursor.skip_rest]
    exact List.drop_suffix _ _
  exact (hf a _ b stop hb).trans hmid

theorem finish (hp : EndsIn c p) (f : α → β) : EndsIn c (p >>= fun a => Pure.pure (f a)) := by
  intro at_ b stop h
  obtain ⟨a, mid, ha, hb⟩ := bind_eq_some.1 h
  obtain ⟨-, rfl⟩ := pure_eq_some.1 hb
  exact hp at_ a _ ha

theorem tagged {p : Parser (List Element)} (hp : EndsIn c p) (tag : Tag) :
    EndsIn c (Grammar.tagged tag p) := by
  intro at_ e stop h
  obtain ⟨children, hchildren, -⟩ := Grammar.tagged_eq_some.1 h
  exact hp at_ _ stop hchildren

end EndsIn

end Parser

namespace Grammar

open TextShell.Parser Element

section Ends

variable {value execution : Parser Element} (hv : Uniform unplaced value)
  (hx : Uniform unplaced execution)

include hx in
theorem endsIn_block : EndsIn '}' (block execution) :=
  .tagged (.bind (.take _) fun _ => .bind (.take _) fun _ =>
    .bind ((hx.sepBy uniform_separator).orElse (.pure rfl)) fun _ =>
    .bind (.take _) fun _ => (EndsIn.char '}').finish _) _

include hx in
theorem endsIn_functionRule : EndsIn '}' (functionRule execution) :=
  .tagged (.bind (.take _) fun _ => .bind (.take _) fun _ =>
    .bind uniform_functionName fun _ =>
    .bind (.take _) fun _ => .bind (.take _) fun _ => .bind (.take _) fun _ =>
    .bind ((uniform_formalParam.sepBy uniform_comma).orElse (.pure rfl)) fun _ =>
    .bind (.take _) fun _ => .bind (.take _) fun _ => .bind (.take _) fun _ =>
    (endsIn_block hx).finish _) _

include hv in
theorem endsIn_parenCall : EndsIn ')' (parenCall value) :=
  .tagged (.bind uniform_functionName fun _ =>
    .bind (.take _) fun _ => .bind (.take _) fun _ =>
    .bind ((hv.sepBy uniform_comma).orElse (.pure rfl)) fun _ =>
    .bind (.take _) fun _ => (EndsIn.char ')').finish _) _

end Ends

/-! ## Sources behind a conditional -/

section Sources

variable {a g r s t w : List Char} {v : Element} {ts us vs : List Element}

/-- What goes on with a conditional behind its body. -/
abbrev elseWord : Parser Element :=
  keyword "else" >>= fun _ => blank >>= fun _ => value

/-- A statement that starts with `else` assigns to a variable of that name. -/
theorem refuses_elseWord_of_item (h : Reads unplaced item w r v) :
    Refuses elseWord (w ++ r) := by
  rcases (Alike.take _).cases (p := keyword "else") (w ++ r) with
    hnone | ⟨word, r', _, htext, hword⟩
  · exact hnone.bind
  obtain ⟨rfl, hend⟩ := takes_keyword_iff.1 (hword.mono fun _ _ => trivial)
  have hname : IsName "else".toList := isName_of_mem_reserved "else" (by simp [reserved])
  have hother {word : String} (hmem : word ∈ reserved) (hne : word ≠ "else") :
      Refuses (keyword word) ("else".toList ++ r') :=
    refuses_keyword_ne (isName_of_mem_reserved word hmem) hname hne (nameEnd_of_atWordEnd hend)
  have hcall : Refuses functionName ("else".toList ++ r') := by
    refine Refuses.leaf (Refuses.take (if_pos ?_))
    exact startsWithWord_iff.2 ⟨"else", by simp [reserved], r', rfl, hend⟩
  have hplain : ¬ Plain r' := by
    intro hplain
    refine h.not_refuses ?_
    rw [htext]
    refine (Refuses.tagged (hother (by simp [reserved]) (by simp)).bind).orElse ?_
    rw [execution_eq]
    refine (refuses_block_name hname).orElse <| Refuses.orElse ?_ <|
      (hplain.refuses_set hname (nameEnd_of_atWordEnd hend)).orElse <|
      (Refuses.tagged (hother (by simp [reserved]) (by simp)).bind).orElse <|
      (Refuses.tagged (hother (by simp [reserved]) (by simp)).bind).orElse <|
      (Refuses.tagged hcall.bind).orElse (Refuses.tagged hcall.bind)
    refine refuses_control fun word hmem => ?_
    fin_cases hmem <;> exact hother (by simp [reserved]) (by simp)
  have hassign : Uniform id (space? >>= fun _ => char '=') := .seq (.take _) (.take _)
  rcases hassign.cases r' with hnone | ⟨w', r'', _, rfl, hreads⟩
  · exact absurd hnone hplain
  obtain ⟨sp, eq, rfl, hsp, heq⟩ := Alike.reads_seq (Alike.take _) (Alike.take _) hreads
  obtain rfl := takes_char_iff.1 (heq.mono fun _ _ => trivial)
  have hblanks := (takes_space?_iff.1 hsp).1
  have hblank : Takes blank sp ('=' :: r'') :=
    takes_blank (fun c hc => isGap_of_isSpace (hblanks c hc)) ((front_cons _ '=' r'').2 (by decide))
  rw [htext, List.append_assoc, List.singleton_append]
  exact refuses_assigned (by simp [reserved]) hname hblanks
    (Refuses.of_takes_seq hblank (refuses_value_assigned r''))

theorem refuses_elseWord_of_front {c : Char} (hc : isNameStart c = false) (s : List Char) :
    Refuses elseWord (c :: s) :=
  (refuses_keyword_of_name (isName_of_mem_reserved "else" (by simp [reserved]))
    ((front_cons _ c s).2 hc)).bind

/-- No source goes on with a conditional. -/
theorem Source.refuses_else (h : Source s vs) : Refuses (blank >>= fun _ => elseWord) s := by
  have hgap {g r : List Char} (hgap : Takes gap g r) (hr : Refuses elseWord r) :
      Refuses (blank >>= fun _ => elseWord) (g ++ r) := by
    rcases takes_gap_cases hgap with hblank | ⟨g, g', rfl, hblank⟩
    · exact Refuses.of_takes_seq hblank hr
    · rw [List.append_assoc, List.cons_append]
      exact Refuses.of_takes_seq (hblank _) (refuses_elseWord_of_front rfl _)
  cases h with
  | @empty g hempty =>
      have hnil : Refuses elseWord [] := Shortens.refuses_nil
        ((shortens_keyword (by simp)).bind_left fun _ =>
          shortens_blank.bind fun _ => (shortens_reader .value).weaken)
      simpa using hgap hempty hnil
  | items hlead hfirst _ _ _ => exact hgap hlead (refuses_elseWord_of_item hfirst)

/-! ## Texts in front of a word -/

/-- The word that is put behind a text to see whether the text is complete. -/
def probe : List Char := ['x']

theorem not_refuses_value_probe : ¬ Refuses value probe := by
  have hname : IsName probe := ⟨rfl, by simp⟩
  have hvalue := not_refuses_value_name (r := []) hname (by decide)
  rwa [List.append_nil] at hvalue

/-- What is looked for behind a statement, and not found where a word follows, is not
found where a source follows. -/
theorem keeps_probe (hgap : Takes gap (a ++ ['\n']) probe) (ht : Source t ts) :
    Keeps (a ++ ['\n'] ++ probe) (a ++ ['\n'] ++ t) := by
  rcases takes_gap_cases hgap with hblank | ⟨g, g', hsplit, hblank⟩
  · constructor
    · intro hrefuses
      rw [sameRefusals_bodyPart.refuses_iff, refuses_behind hblank (uniform_reader .value)]
        at hrefuses
      exact absurd hrefuses not_refuses_value_probe
    · refine fades_of_refuses ((sameRefusals_elsePart.refuses_iff _).2 ?_)
      obtain ⟨g, r, rfl, hg⟩ := exists_takes_blank t
      have helse := (refuses_behind hg uniform_elseWord).1 ht.refuses_else
      rw [List.append_assoc, List.singleton_append, ← List.cons_append, ← List.append_assoc]
      exact (refuses_behind (takes_blank_newline hblank hg) uniform_elseWord).2 helse
  · -- a `;` ends the statement before either text is reached
    have hmark (y z : List Char) : Started (';' :: y) (';' :: z) :=
      IsStop.started (.inr (by simp)) y z
    rw [hsplit, List.append_assoc, List.append_assoc]
    exact Keeps.behind (hblank _) (hblank _) (hmark _ _).value (hmark _ _).other

theorem ended_probe (hgap : Takes gap (a ++ ['\n']) probe) (ht : Source t ts) :
    Ended (a ++ ['\n'] ++ probe) (a ++ ['\n'] ++ t) := by
  induction a with
  | nil => exact ⟨[], '\n', probe, t, by simp, .inl ⟨rfl, rfl⟩, rfl, rfl, keeps_probe hgap ht⟩
  | cons c a ih =>
      by_cases hspace : isSpace c = true
      · obtain ⟨sp, d, y, z, hsp, hd, hy, hz, hkeeps⟩ :=
          ih ((takes_gap_cons (isGap_of_isSpace hspace)).1 hgap)
        refine ⟨c :: sp, d, y, z, List.forall_mem_cons.2 ⟨hspace, hsp⟩, hd, ?_, ?_, hkeeps⟩
        · rw [List.cons_append, List.cons_append, hy, List.cons_append]
        · rw [List.cons_append, List.cons_append, hz, List.cons_append]
      · have hc : IsStop c := by
          rcases takes_gap_front hgap with hgap | rfl | rfl
          · exact .inl ⟨hgap, by simpa using hspace⟩
          · exact .inr (by simp)
          · exact .inr (by simp)
        exact ⟨[], c, _, _, by simp, hc, rfl, rfl, keeps_probe hgap ht⟩

/-- The text ends in a line end, and with a word behind it these are its items. -/
inductive Lead : List Char → List Element → Prop
  | nothing {a : List Char} (hgap : Takes gap (a ++ ['\n']) probe) : Lead (a ++ ['\n']) []
  | items {g w ws a : List Char} {v : Element} {vs : List Element}
      (hgap : Takes gap g (w ++ (ws ++ (a ++ ['\n'] ++ probe))))
      (hfirst : Reads unplaced item w (ws ++ (a ++ ['\n'] ++ probe)) v)
      (hrest : Steps unplaced nextItem (a ++ ['\n'] ++ probe) ws vs)
      (hsep : Takes separator (a ++ ['\n']) probe) :
      Lead (g ++ (w ++ (ws ++ (a ++ ['\n'])))) (v :: vs)

theorem carries_nextItem (k : Nat) : Carries k Ended Ended unplaced nextItem nextItem :=
  .seq carries_separator carries_item

/-- The end of a statement that is a line goes on with the gap behind it. -/
theorem exists_isEnd_append {g' t₀ : List Char} (hsep : Takes separator (a ++ ['\n']) probe)
    (hg' : Takes gap g' t₀) :
    ∃ e g, a ++ ['\n'] ++ g' = e ++ g ∧ IsEnd e ∧ Takes gap g t₀ := by
  obtain ⟨e, g, hsplit, hend, hgap⟩ := exists_isEnd hsep (tame_newline a probe)
  rcases List.eq_nil_or_concat g with rfl | ⟨g, d, rfl⟩
  · exact ⟨e, g', by rw [hsplit, List.append_nil], hend, hg'⟩
  · rw [List.concat_eq_append, ← List.append_assoc] at hsplit
    obtain ⟨rfl, hd⟩ := List.append_inj' hsplit rfl
    obtain rfl : '\n' = d := by simpa using hd
    rw [List.concat_eq_append] at hgap
    exact ⟨e, g ++ '\n' :: g', by simp, hend, takes_gap_newline hgap hg'⟩

/-- A text that is complete in front of a word is complete in front of any source. -/
theorem Lead.append (h : Lead s us) (ht : Source t ts) : Source (s ++ t) (us ++ ts) := by
  cases h with
  | @nothing a hgap =>
      cases ht with
      | empty hempty =>
          rw [List.append_assoc, List.singleton_append]
          exact .empty (takes_gap_newline hgap hempty)
      | items hlead hfirst hrest hstop hend =>
          rw [← List.append_assoc, List.append_assoc a, List.singleton_append]
          exact .items (takes_gap_newline hgap hlead) hfirst hrest hstop hend
  | @items g w ws a v vs hgap hfirst hrest hsep =>
      have hlead : Takes gap (a ++ ['\n']) probe := by
        obtain ⟨e, g, hsplit, hend, hgap⟩ := exists_isEnd hsep (tame_newline a probe)
        rw [hsplit]
        exact takes_gap_append hend hgap
      have htame : Tame (w ++ ws) (a ++ ['\n'] ++ probe) := fun _ _ _ _ => by simp
      -- the items of the first text are read as before
      obtain ⟨hrest', hended⟩ :=
        (carries_nextItem ws.length).steps le_rfl htame.right (ended_probe hlead ht) hrest
      obtain ⟨hfirst', -⟩ :=
        (carries_item (k := w.length)).carry le_rfl htame.left hended hfirst
      have hne : w ≠ [] := List.length_pos_iff.1 (hfirst.pos shortens_item)
      have hgap' : Takes gap g (w ++ (ws ++ (a ++ ['\n'] ++ t))) :=
        takes_gap_congr (append_head? hne _ _) hgap
      cases ht with
      | empty hempty =>
          obtain ⟨e, g', htext, hend, hg'⟩ := exists_isEnd_append hsep hempty
          have hstop : Refuses nextItem (a ++ ['\n'] ++ t) := by
            rw [htext, ← List.append_nil (e ++ g')]
            exact Refuses.of_takes_seq (takes_separator_append hend hg') shortens_item.refuses_nil
          have hlast : Takes gap (a ++ ['\n'] ++ t) [] := by
            rw [htext]
            exact takes_gap_append hend hg'
          simpa using Source.items hgap' hfirst' hrest' hstop hlast
      | @items g₁ w₁ ws₁ g₂ v₁ vs₁ hlead₁ hfirst₁ hrest₁ hstop₁ hend₁ =>
          obtain ⟨e, g', htext, hend, hg'⟩ := exists_isEnd_append hsep hlead₁
          have hnext : Reads unplaced nextItem (a ++ ['\n'] ++ g₁ ++ w₁) (ws₁ ++ g₂) v₁ := by
            rw [htext]
            exact Yields.seq (takes_separator_append hend hg') hfirst₁
          have hsteps : Steps unplaced nextItem g₂ (a ++ ['\n'] ++ g₁ ++ w₁ ++ ws₁) (v₁ :: vs₁) :=
            .cons (by simp) hnext hrest₁
          have hall : Steps unplaced nextItem g₂ (ws ++ (a ++ ['\n'] ++ g₁ ++ w₁ ++ ws₁))
              (vs ++ v₁ :: vs₁) := by
            refine Steps.append ?_ hsteps
            simpa using hrest'
          simpa using Source.items (by simpa using hgap') (by simpa using hfirst') hall hstop₁ hend₁

/-! ## The word behind a text -/

theorem eq_call_of_bare {n : Node} {name : String} (h : n.bare = .call name [] none) :
    ∃ loc, n = .call name [] loc := by
  cases n with
  | call name' arguments loc =>
      rw [Tree.bare] at h
      injection h with hname hnil
      subst hname
      cases arguments with
      | nil => exact ⟨loc, rfl⟩
      | cons n ns => cases hnil
  | _ => simp [Tree.bare] at h

theorem ControlAt.ne_call {e : Element} {stop : Cursor} {name : String} {loc : Option Loc}
    (h : ControlAt e stop) : ¬ Denotes (.call name [] loc) e := by
  intro hcall
  obtain ⟨n, hn, hforms, -⟩ := h
  rw [Denotes, hn] at hcall
  obtain rfl := Except.ok.inj hcall
  cases hforms .value

/-- An assignment, a return or a clearing stands for no call. -/
theorem not_denotes_call {e : Element}
    (htag : e.tag = .setStmt ∨ e.tag = .returnStmt ∨ e.tag = .clearStmt)
    {name : String} {arguments : List Node} {loc : Option Loc} :
    ¬ Denotes (.call name arguments loc) e := by
  obtain ⟨tag, text, line, col, children, fault⟩ := e
  intro h
  rw [Denotes, Element.toNode.eq_def] at h
  cases fault with
  | some fault => cases h
  | none =>
      dsimp only [Element.tag] at htag
      rcases htag with rfl | rfl | rfl
      · rcases children with _ | ⟨target, _ | ⟨value, _ | ⟨_, _⟩⟩⟩
        · cases h
        · cases h
        · simp [bind_eq_ok, pure, Except.pure] at h
        · cases h
      · cases children with
        | nil => cases h
        | cons value rest => simp [bind_eq_ok, pure, Except.pure] at h
      · cases children with
        | nil => cases h
        | cons value rest => simp [bind_eq_ok, pure, Except.pure] at h

theorem many_eq_nil {α : Type} {p : Parser α} {fuel : Nat} {at_ stop : Cursor}
    (h : many p fuel at_ = some ([], stop)) : at_ = stop := by
  cases fuel with
  | zero => exact (pure_eq_some.1 h).2
  | succ fuel =>
      rw [many_succ] at h
      simp only [orElse_eq_some, bind_eq_some, pure_eq_some] at h
      rcases h with ⟨_, _, _, _, _, _, hcons, _⟩ | ⟨-, -, hstop⟩
      · cases hcons
      · exact hstop

/-- A statement that is a call without arguments and does not end in its parenthesis is
the name of its function. -/
theorem execution_eq_name {e : Element} {at_ stop : Cursor} {name : String} {loc : Option Loc}
    (h : execution at_ = some (e, stop)) (hcall : Denotes (.call name [] loc) e)
    (hend : ¬ (')' :: stop.rest <:+ at_.rest)) :
    at_.rest.take (stop.offset - at_.offset) = name.toList := by
  have hrule : executionRule (Rule.value.parse at_.rest.length)
      (Rule.execution.parse at_.rest.length) at_ = some (e, stop) := h
  obtain ⟨hv, hx⟩ := parse_forms at_.rest.length
  simp only [executionRule, openStatement, orElse_eq_some] at hrule
  rcases hrule with h | ⟨-, h | ⟨-, h | ⟨-, h | ⟨-, h | ⟨-, h | ⟨-, h⟩⟩⟩⟩⟩⟩
  · exact absurd hcall (block_controlAt hx (Nat.lt_succ_self _) h).ne_call
  · exact absurd hcall (controlStatement_controlAt hv (Nat.lt_succ_self _) h).ne_call
  · exact absurd hcall (not_denotes_call (.inl (tag_of_tagged h)))
  · exact absurd hcall (not_denotes_call (.inr (.inl (tag_of_tagged h))))
  · exact absurd hcall (not_denotes_call (.inr (.inr (tag_of_tagged h))))
  · exact absurd (endsIn_parenCall (uniform_parse _ _) _ _ _ h) hend
  · obtain ⟨children, hp, rfl⟩ := tagged_eq_some.1 h
    simp only [bind_eq_some, get_eq_some, pure_eq_some] at hp
    obtain ⟨head, c₁, h₁, _, _, ⟨rfl, rfl⟩, arguments, c₂, h₂, rfl, rfl⟩ := hp
    obtain ⟨tag, children, hname, rfl⟩ := element_eq_some.1 h₁
    simp only [Denotes, Element.toNode] at hcall
    split at hcall
    · simp only [bind_eq_ok] at hcall
      obtain ⟨nodes, hnodes, d, hd, name', hname', hcall⟩ := hcall
      injection Except.ok.inj hcall with heq hnil
      subst heq hnil
      obtain rfl := Except.ok.inj hd
      have hnone : arguments = [] := by
        cases arguments with
        | nil => rfl
        | cons e es => simp [Element.toNodes, bind_eq_ok, pure, Except.pure] at hnodes
      subst hnone
      obtain rfl := many_eq_nil h₂
      rw [← Except.ok.inj hname', String.toList_ofList]
    · cases hcall

/-- The last item of a text that ends in the word, if it is the call of the word and
nothing else, is the word. -/
theorem eq_probe_of_item {q : Program} (h : Reads unplaced item w [] v)
    (hlast : probe <:+ w) (hq : ProgramOf.ofElements Document.name [v] = .ok q) :
    ∃ n, q = ⟨[], [n]⟩ ∧ (n = .call "x" [] none → w = probe) := by
  obtain ⟨e, rfl, he⟩ := h { rest := w ++ [] } rfl
  have hstop : (Cursor.skip { rest := w ++ [] } w.length).rest = [] := by simp
  have hends (c : Char) (hc : c ≠ 'x') :
      ¬ (c :: (Cursor.skip { rest := w ++ [] } w.length).rest <:+ w ++ []) := by
    intro hsuffix
    rw [hstop, List.append_nil] at hsuffix
    have hsame := List.suffix_of_suffix_length_le hsuffix hlast le_rfl
    have := hsame.eq_of_length rfl
    simp [probe] at this
    exact hc this
  rcases orElse_eq_some.1 he with he | ⟨-, he⟩
  · exact absurd (endsIn_functionRule (uniform_reader _) _ _ _ he) (hends '}' (by decide))
  · obtain ⟨n, hn, -⟩ := (parse_forms _).2 _ e _ (Nat.lt_succ_self _) he (by rw [hstop]; rfl)
    have hone := ofElements_execution (toNode_unplaced hn) (rfl : ProgramOf.ofElements _ [] = .ok {})
    rw [hq] at hone
    refine ⟨n.bare, Except.ok.inj hone, fun hcall => ?_⟩
    obtain ⟨loc, rfl⟩ := eq_call_of_bare hcall
    have htext := execution_eq_name he hn (hends ')' (by decide))
    rw [Cursor.skip_offset (by simp), Nat.add_sub_cancel_left, List.take_left] at htext
    exact htext

/-- A word at the start of a line is not part of a gap at the end of the text. -/
theorem gap_eq_nil (h : Takes gap g []) (htext : w ++ g = s ++ ['\n', 'x']) : g = [] := by
  have hline (b : List Char) : g ≠ b ++ ['\n', 'x'] := by
    rintro rfl
    exact not_takes_gap_newline rfl h
  rcases List.append_eq_append_iff.1 htext with ⟨b, -, hb⟩ | ⟨b, -, hb⟩
  · exact absurd hb (hline b)
  · rcases b with _ | ⟨c, _ | ⟨d, b⟩⟩
    · exact absurd hb.symm (hline [])
    · obtain ⟨-, rfl⟩ : c = '\n' ∧ g = ['x'] := by simpa using hb.symm
      have hlen := takes_gap_iff.1 h
      cases hlen
    · have hall : c = '\n' ∧ d = 'x' ∧ b = [] ∧ g = [] := by simpa using hb.symm
      exact hall.2.2.2

theorem probe_suffix (hw : w ≠ []) (htext : a ++ w = s ++ ['\n'] ++ probe) : probe <:+ w := by
  have hlen : probe.length ≤ w.length := List.length_pos_iff.2 hw
  have hsuffix : probe <:+ a ++ w := by
    rw [htext]
    exact List.suffix_append _ _
  exact List.suffix_of_suffix_length_le hsuffix (List.suffix_append a w) hlen

/-- If the program of a text with a word behind it ends in the call of the word, the text
is complete, and it is the source of the rest. -/
theorem exists_lead {p : Program} (h : Source (s ++ ['\n'] ++ probe) us)
    (hp : ProgramOf.ofElements Document.name us = .ok (p ++ ⟨[], [.call "x" [] none]⟩)) :
    ∃ vs, Lead (s ++ ['\n']) vs ∧ ProgramOf.ofElements Document.name vs = .ok p := by
  -- the call at the end is that of the last item
  have hsplit {q : Program} {n : Node}
      (hq : q ++ ⟨[], [n]⟩ = p ++ ⟨[], [.call "x" [] none]⟩) : q = p ∧ n = .call "x" [] none := by
    obtain ⟨functions, executions⟩ := q
    obtain ⟨functions', executions'⟩ := p
    simp only [ProgramOf.append_def, List.append_nil, ProgramOf.mk.injEq] at hq
    obtain ⟨rfl, hq⟩ := hq
    obtain ⟨rfl, hn⟩ := List.append_inj' hq rfl
    exact ⟨rfl, by simpa using hn⟩
  generalize htext : s ++ ['\n'] ++ probe = text at h
  cases h with
  | empty hgap =>
      subst htext
      rw [List.append_assoc] at hgap
      exact absurd hgap (not_takes_gap_newline rfl)
  | @items g w ws g' v vs hgap hfirst hrest hstop hend =>
      obtain rfl : g' = [] := by
        refine gap_eq_nil (w := g ++ (w ++ ws)) (s := s) hend ?_
        rw [List.append_assoc, List.append_assoc, ← htext, List.append_assoc]
        rfl
      simp only [List.append_nil] at hgap hfirst htext
      rcases List.eq_nil_or_concat vs with rfl | ⟨vs, u, rfl⟩
      · cases hrest
        simp only [List.append_nil] at hgap hfirst htext
        have hne : w ≠ [] := List.length_pos_iff.1 (hfirst.pos shortens_item)
        obtain ⟨n, hn, hprobe⟩ := eq_probe_of_item hfirst (probe_suffix hne htext.symm) hp
        obtain ⟨rfl, hcall⟩ := hsplit (q := {}) hn.symm
        obtain rfl := hprobe hcall
        obtain rfl := List.append_cancel_right htext
        exact ⟨[], .nothing hgap, rfl⟩
      · rw [List.concat_eq_append] at hrest hp
        obtain ⟨w₁, w₂, rfl, hsteps, hlast⟩ := hrest.exists_append
        cases hlast with
        | @cons w₂ ws _ _ hne hnext hnil =>
          cases hnil
          obtain ⟨sep, w₃, rfl, hsep, hitem⟩ :=
            Alike.reads_seq uniform_separator uniform_item hnext
          simp only [List.append_nil] at *
          rw [← List.cons_append] at hp
          obtain ⟨q, q', hq, hq', happend⟩ := ofElements_append_eq_ok.1 hp
          have hne : w₃ ≠ [] := List.length_pos_iff.1 (hitem.pos shortens_item)
          have hbefore : g ++ (w ++ (w₁ ++ sep)) ++ w₃ = s ++ ['\n'] ++ probe := by
            rw [htext]
            simp only [List.append_assoc]
          obtain ⟨n, rfl, hprobe⟩ := eq_probe_of_item hitem (probe_suffix hne hbefore) hq'
          obtain ⟨rfl, hcall⟩ := hsplit happend
          obtain rfl := hprobe hcall
          have hlines := List.append_cancel_right hbefore
          rcases List.eq_nil_or_concat sep with rfl | ⟨sep, d, rfl⟩
          · have hnone : Refuses separator probe := (Refuses.take rfl).bind
            exact absurd hnone hsep.not_refuses
          rw [List.concat_eq_append] at hsep hsteps hfirst hgap hlines
          obtain ⟨-, hd⟩ : g ++ (w ++ (w₁ ++ sep)) = s ∧ [d] = ['\n'] :=
            List.append_inj' (by simpa only [List.append_assoc] using hlines) rfl
          obtain rfl : d = '\n' := by simpa using hd
          rw [← hlines]
          exact ⟨v :: vs, .items hgap hfirst hsteps hsep, hq⟩

end Sources

end Grammar

namespace Program

open Grammar

/-- If both sources are accepted, so are the two with a line end between them, as the
program of the first and then that of the second. -/
def Composes (s t : String) : Prop :=
  ∀ p q, parse s = .ok p → parse t = .ok q →
    ∃ r, parse (s ++ "\n" ++ t) = .ok r ∧ r.unplaced = p.unplaced ++ q.unplaced

theorem parse_probe :
    ∃ q, parse "x" = .ok q ∧ q.unplaced = ⟨[], [.call "x" [] none]⟩ := ⟨_, rfl, rfl⟩

/-- A source composes with every source if it composes with a word. -/
theorem composes_iff (s : String) : (∀ t, Composes s t) ↔ Composes s "x" := by
  refine ⟨fun h => h "x", fun hprobe t p q hp hq => ?_⟩
  obtain ⟨x, hx, hcall⟩ := parse_probe
  obtain ⟨r, hr, hprogram⟩ := hprobe p x hp hx
  obtain ⟨us, hsource, hus⟩ := parse_iff_source.1 ⟨r, hr, hprogram⟩
  have htext : (s ++ "\n" ++ "x").toList = s.toList ++ ['\n'] ++ probe := by
    simp [probe]
  rw [htext] at hsource
  rw [hcall] at hus
  obtain ⟨vs, hlead, hvs⟩ := exists_lead hsource hus
  obtain ⟨ts, hts, hqs⟩ := parse_iff_source.1 ⟨q, hq, rfl⟩
  refine parse_iff_source.2 ⟨vs ++ ts, ?_, ofElements_append_eq_ok.2 ⟨_, _, hvs, hqs, rfl⟩⟩
  have hboth : (s ++ "\n" ++ t).toList = s.toList ++ ['\n'] ++ t.toList := by simp
  rw [hboth]
  exact hlead.append hts

/-- Blanks that end no line do not end a statement either, although they may end a
source. -/
theorem not_composes_carriage_return : ¬ Composes "a\r" "b" := by
  intro h
  have hfirst : (parse "a\r").toOption.isSome = true := by decide +kernel
  have hsecond : (parse "b").toOption.isSome = true := by decide +kernel
  have hboth : (parse ("a\r" ++ "\n" ++ "b")).toOption.isSome = false := by decide +kernel
  cases hp : parse "a\r" with
  | error e => simp [hp, Except.toOption] at hfirst
  | ok p =>
      cases hq : parse "b" with
      | error e => simp [hq, Except.toOption] at hsecond
      | ok q =>
          obtain ⟨r, hr, -⟩ := h p q hp hq
          rw [hr] at hboth
          cases hboth

end Program

end TextShell
