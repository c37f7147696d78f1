import TextShell.Proofs.Program.Reading
import TextShell.Proofs.Template
import TextShell.Proofs.Text.Split

/-!
# What the terminals of the grammar take

For each terminal: the text it takes where that is known, the text it refuses,
and that it never takes nothing where the grammar relies on that.  What may
follow is said through the first character of the text that is left, `Front`.

## Main results

* `startsWithWord_name` — a name starts with a reserved word only if it is
  that word.
* `isWordOrUnderscore_of_isGap` — no blank goes on a word, so a name that a
  blank follows has ended.
* `Grammar.yields_template` — a canonical template is read from its printed form,
  whatever follows.
-/

namespace TextShell

/-! ## Characters -/

/-- The first character, if there is one, satisfies `P`. -/
def Front (P : Char → Prop) (s : List Char) : Prop := ∀ c ∈ s.head?, P c

@[simp] theorem front_nil (P : Char → Prop) : Front P [] := by
  simp [Front]

@[simp] theorem front_cons (P : Char → Prop) (c : Char) (s : List Char) :
    Front P (c :: s) ↔ P c := by
  simp [Front]

theorem Front.mono {P Q : Char → Prop} {s : List Char} (h : Front P s)
    (hPQ : ∀ c, P c → Q c) : Front Q s := fun c hc => hPQ c (h c hc)

/-- A character that is no blank and starts no comment. -/
def IsSolid (c : Char) : Prop :=
  Text.isGap c = false ∧ c ≠ '#' ∧ c ≠ ';'

instance (c : Char) : Decidable (IsSolid c) := by
  unfold IsSolid; infer_instance

theorem isAlphanum_cases {c : Char} (h : c.isAlphanum = true) :
    (48 ≤ c.toNat ∧ c.toNat ≤ 57) ∨ (65 ≤ c.toNat ∧ c.toNat ≤ 90) ∨
      (97 ≤ c.toNat ∧ c.toNat ≤ 122) := by
  simp only [Char.isAlphanum, Char.isAlpha, Char.isUpper, Char.isLower,
    Char.isDigit, Bool.or_eq_true, Bool.and_eq_true, decide_eq_true_eq,
    ge_iff_le, UInt32.le_iff_toNat_le] at h
  change (65 ≤ c.toNat ∧ c.toNat ≤ 90 ∨ 97 ≤ c.toNat ∧ c.toNat ≤ 122) ∨
    48 ≤ c.toNat ∧ c.toNat ≤ 57 at h
  omega

theorem isNameChar_cases {c : Char} (h : isNameChar c = true) :
    c = '_' ∨ c.isAlphanum = true := by
  simp only [isNameChar, Bool.or_eq_true, beq_iff_eq] at h
  exact h.symm

theorem isNameStart_isNameChar {c : Char} (h : isNameStart c = true) :
    isNameChar c = true := by
  simp only [isNameStart, isNameChar, Char.isAlphanum, Bool.or_eq_true] at h ⊢
  tauto

theorem isNameChar_toNat_lt {c : Char} (h : isNameChar c = true) :
    c.toNat < 128 := by
  rcases isNameChar_cases h with rfl | h
  · decide
  · have := isAlphanum_cases h
    omega

/-- The characters of names are word characters. -/
theorem isWordOrUnderscore_of_isNameChar {c : Char}
    (h : isNameChar c = true) : isWordOrUnderscore c = true := by
  have hlt := isNameChar_toNat_lt h
  rcases isNameChar_cases h with rfl | h
  · decide
  · simp [isWordOrUnderscore, Text.isWordChar, hlt, h]

theorem isSolid_of_isNameChar {c : Char} (h : isNameChar c = true) :
    IsSolid c := by
  have hlt := isNameChar_toNat_lt h
  refine ⟨?_, ?_, ?_⟩
  · rcases isNameChar_cases h with rfl | h
    · decide
    · have := isAlphanum_cases h
      simp only [Text.isGap, hlt, if_true, Bool.or_eq_false_iff,
        Bool.and_eq_false_iff, decide_eq_false_iff_not, beq_eq_false_iff_ne]
      omega
  · rintro rfl
    revert h
    decide
  · rintro rfl
    revert h
    decide

/-- The code points of blanks beyond ASCII. -/
private def gapCodes : List Nat :=
  [133, 160, 5760, 8192, 8193, 8194, 8195, 8196, 8197, 8198, 8199, 8200, 8201,
    8202, 8232, 8233, 8239, 8287, 12288, 0x180E]

private theorem gapCodes_no_word : ∀ n ∈ gapCodes,
    (Text.letterRanges.any fun range =>
        decide (range.1 ≤ n) && decide (n ≤ range.2)) = false ∧
      (Text.numeralRanges.any fun range =>
        decide (range.1 ≤ n) && decide (n ≤ range.2)) = false := by
  decide +kernel

private theorem mem_gapCodes {c : Char} (h128 : ¬c.toNat < 128)
    (h : Text.isGap c = true) : c.toNat ∈ gapCodes := by
  simp only [Text.isGap, h128, if_false, Text.Ranges.contains,
    Text.blankRanges, List.any_cons, List.any_nil, Bool.or_eq_true,
    Bool.and_eq_true, decide_eq_true_eq, beq_iff_eq, Bool.false_eq_true,
    or_false] at h
  simp only [gapCodes, List.mem_cons, List.not_mem_nil, or_false]
  omega

/-- No blank goes on a word. -/
theorem isWordOrUnderscore_of_isGap {c : Char} (h : Text.isGap c = true) :
    isWordOrUnderscore c = false := by
  by_cases h128 : c.toNat < 128
  · have hcode : (9 ≤ c.toNat ∧ c.toNat ≤ 13) ∨ c.toNat = 32 := by
      simpa [Text.isGap, h128] using h
    have hname : isNameChar c = false := by
      by_contra hne
      have hsolid := isSolid_of_isNameChar (by simpa using hne)
      rw [hsolid.1] at h
      exact absurd h (by decide)
    simp only [isNameChar, Bool.or_eq_false_iff] at hname
    simp [isWordOrUnderscore, Text.isWordChar, h128, hname.1, hname.2]
  · obtain ⟨hletter, hnumeral⟩ := gapCodes_no_word _ (mem_gapCodes h128 h)
    have hne : c ≠ '_' := by
      rintro rfl
      exact h128 (by decide)
    simp [isWordOrUnderscore, Text.isWordChar, h128, Text.Ranges.contains,
      hletter, hnumeral, hne]

/-! ## Names and words -/

/-- The characters of a name. -/
def IsName : List Char → Prop
  | [] => False
  | c :: rest => isNameStart c = true ∧ ∀ d ∈ rest, isNameChar d = true

/-- No name goes on here. -/
abbrev NameEnd (s : List Char) : Prop := Front (fun c => isNameChar c = false) s

theorem IsName.isNameChar {w : List Char} (h : IsName w) :
    ∀ c ∈ w, isNameChar c = true := by
  match w, h with
  | c :: rest, ⟨hc, hrest⟩ =>
    intro d hd
    rcases List.mem_cons.1 hd with rfl | hd
    · exact isNameStart_isNameChar hc
    · exact hrest d hd

theorem IsName.ne_nil {w : List Char} (h : IsName w) : w ≠ [] := by
  rintro rfl
  exact h

theorem takeWhile_append_of_front {P : Char → Bool} {w r : List Char}
    (hw : ∀ c ∈ w, P c = true) (hr : Front (fun c => P c = false) r) :
    (w ++ r).takeWhile P = w := by
  rw [List.takeWhile_append_of_pos hw]
  cases r with
  | nil => simp
  | cons c r => simp [(front_cons _ c r).1 hr]

theorem drop_length_takeWhile (P : Char → Bool) (s : List Char) :
    s.drop (s.takeWhile P).length = s.dropWhile P := by
  induction s with
  | nil => rfl
  | cons c s ih => by_cases hc : P c = true <;> simp [hc, ih]

theorem take_length_takeWhile (P : Char → Bool) (s : List Char) :
    s.take (s.takeWhile P).length = s.takeWhile P := by
  induction s with
  | nil => rfl
  | cons c s ih => by_cases hc : P c = true <;> simp [hc, ih]

/-- A name is taken whole. -/
theorem nameLength?_append {w r : List Char} (hw : IsName w)
    (hr : NameEnd r) : nameLength? (w ++ r) = some w.length := by
  match w, hw with
  | c :: rest, ⟨hc, hrest⟩ =>
    have htake := takeWhile_append_of_front hrest hr
    simp only [List.cons_append, nameLength?, hc, if_true, htake,
      List.length_cons]
    rw [Nat.add_comm]

/-- What is taken as a name is one. -/
theorem nameLength?_eq_some {s : List Char} {n : Nat}
    (h : nameLength? s = some n) :
    n ≤ s.length ∧ IsName (s.take n) ∧ NameEnd (s.drop n) := by
  cases s with
  | nil => simp [nameLength?] at h
  | cons c rest =>
      simp only [nameLength?] at h
      split at h
      · next hc =>
        obtain rfl := Option.some.inj h
        have htake := take_length_takeWhile isNameChar rest
        have hlen : (rest.takeWhile isNameChar).length ≤ rest.length := by
          rw [← htake]
          exact List.length_take_le' ..
        have hdrop := drop_length_takeWhile isNameChar rest
        rw [Nat.add_comm]
        refine ⟨by simp only [List.length_cons]; omega, ⟨hc, ?_⟩, ?_⟩
        · intro d hd
          rw [htake] at hd
          exact List.mem_takeWhile_imp hd
        · rw [List.drop_succ_cons, hdrop]
          intro d hd
          have := List.head?_dropWhile_not isNameChar rest
          rw [Option.mem_def.1 hd] at this
          simpa using this
      · simp at h

theorem nameLength?_eq_none {s : List Char}
    (h : Front (fun c => isNameStart c = false) s) : nameLength? s = none := by
  cases s with
  | nil => rfl
  | cons c s => simp [nameLength?, (front_cons _ c s).1 h]

theorem startsWithWord_iff {words : List String} {s : List Char} :
    startsWithWord words s = true ↔
      ∃ word ∈ words, ∃ r, s = word.toList ++ r ∧ atWordEnd r = true := by
  simp only [startsWithWord, List.any_eq_true]
  refine exists_congr fun word => and_congr_right fun _ => ?_
  constructor
  · intro h
    split at h
    · next r hr => exact ⟨r, Text.dropStart?_eq_some.1 hr, h⟩
    · simp at h
  · rintro ⟨r, hs, hr⟩
    rw [Text.dropStart?_eq_some.2 hs]
    exact hr

theorem atWordEnd_iff {s : List Char} :
    atWordEnd s = true ↔ Front (fun c => isWordOrUnderscore c = false) s := by
  cases s with
  | nil => simp [atWordEnd]
  | cons c s => simp [atWordEnd]

theorem nameEnd_of_atWordEnd {s : List Char} (h : atWordEnd s = true) :
    NameEnd s := by
  refine (atWordEnd_iff.1 h).mono fun c hc => ?_
  by_contra hname
  rw [isWordOrUnderscore_of_isNameChar (by simpa using hname)] at hc
  exact absurd hc (by decide)

/-- Two splits of a text into name characters and what ends them are one. -/
theorem name_split_unique {w v r s : List Char}
    (hw : ∀ c ∈ w, isNameChar c = true) (hr : NameEnd r)
    (hv : ∀ c ∈ v, isNameChar c = true) (hs : NameEnd s)
    (h : w ++ r = v ++ s) : w = v ∧ r = s := by
  have hleft := takeWhile_append_of_front hw hr
  rw [h, takeWhile_append_of_front hv hs] at hleft
  subst hleft
  exact ⟨rfl, List.append_cancel_left h⟩

/-- A name starts with a word only if it is the word, and ends there. -/
theorem startsWithWord_name {words : List String} {w r : List Char}
    (hwords : ∀ word ∈ words, ∀ c ∈ word.toList, isNameChar c = true)
    (hw : ∀ c ∈ w, isNameChar c = true) (hr : NameEnd r) :
    startsWithWord words (w ++ r) = true ↔
      String.ofList w ∈ words ∧ atWordEnd r = true := by
  rw [startsWithWord_iff]
  constructor
  · rintro ⟨word, hmem, r', heq, hend⟩
    obtain ⟨rfl, rfl⟩ := name_split_unique hw hr (hwords word hmem)
      (nameEnd_of_atWordEnd hend) heq
    exact ⟨by simpa using hmem, hend⟩
  · rintro ⟨hmem, hend⟩
    exact ⟨_, hmem, r, by simp, hend⟩

/-! ## Blanks -/

theorem gapLength_append (extra : Char → Bool) {w : List Char}
    (hw : ∀ c ∈ w, (Text.isGap c || extra c) = true) (r : List Char) :
    gapLength extra false (w ++ r) = w.length + gapLength extra false r := by
  induction w with
  | nil => simp
  | cons c w ih =>
      have hc := hw c (by simp)
      simp only [List.cons_append, gapLength, Bool.false_eq_true, if_false, hc,
        if_true, ih fun d hd => hw d (by simp [hd]), List.length_cons]
      omega

theorem gapLength_eq_zero {extra : Char → Bool} {r : List Char}
    (hr : Front (fun c => IsSolid c ∧ extra c = false) r) :
    gapLength extra false r = 0 := by
  cases r with
  | nil => rfl
  | cons c r =>
      obtain ⟨⟨hgap, hhash, -⟩, hextra⟩ := (front_cons _ c r).1 hr
      simp [gapLength, hgap, hhash, hextra]

/-- Where blanks and comments are taken, the first of them ends a word. -/
theorem atWordEnd_of_gapLength {extra : Char → Bool} {s : List Char}
    (hextra : ∀ c, extra c = true → isWordOrUnderscore c = false)
    (h : gapLength extra false s ≠ 0) : atWordEnd s = true := by
  cases s with
  | nil => rfl
  | cons c s =>
      rw [atWordEnd_iff, front_cons]
      simp only [gapLength, Bool.false_eq_true, if_false] at h
      by_cases hgap : (Text.isGap c || extra c) = true
      · rcases Bool.or_eq_true _ _ ▸ hgap with hgap | hgap
        · exact isWordOrUnderscore_of_isGap hgap
        · exact hextra c hgap
      · rw [if_neg hgap] at h
        split at h
        · next hc => subst hc; decide
        · exact absurd rfl h

/-! ## Terminals -/

namespace Parser

variable {r s : List Char}

theorem takes_char (c : Char) (r : List Char) : Takes (char c) [c] r :=
  Yields.take (by simp)

theorem refuses_char {c : Char} (h : Front (fun d => d ≠ c) s) :
    Refuses (char c) s := by
  refine Refuses.take ?_
  cases s with
  | nil => simp
  | cons d s => simp [(front_cons _ d s).1 h]

theorem takes_keyword {word : String} (h : atWordEnd r = true) :
    Takes (keyword word) word.toList r := by
  refine Yields.take ?_
  have hword : startsWithWord [word] (word.toList ++ r) = true :=
    startsWithWord_iff.2 ⟨word, by simp, r, rfl, h⟩
  simp only [hword, if_true, String.length_toList]

theorem refuses_keyword {word : String}
    (h : startsWithWord [word] s = false) : Refuses (keyword word) s :=
  Refuses.take (by simp [h])

/-- Text that starts with another character than the word is refused. -/
theorem refuses_keyword_of_front {word : String} {c : Char}
    {rest : List Char} (hword : word.toList = c :: rest)
    (h : Front (fun d => d ≠ c) s) : Refuses (keyword word) s := by
  refine refuses_keyword (Bool.eq_false_iff.2 fun hstart => ?_)
  obtain ⟨word', hmem, r, rfl, -⟩ := startsWithWord_iff.1 hstart
  obtain rfl : word' = word := by simpa using hmem
  rw [hword] at h
  exact (front_cons _ _ _).1 h rfl

theorem takeWhile_space (h : Front IsSolid r) :
    ([' '] ++ r).takeWhile (fun c => c == ' ' || c == '\t') = [' '] := by
  refine takeWhile_append_of_front (by simp) (h.mono fun c hc => ?_)
  simp only [Bool.or_eq_false_iff, beq_eq_false_iff_ne]
  constructor <;> rintro rfl <;> exact absurd hc (by decide)

theorem takes_space (h : Front IsSolid r) : Takes space [' '] r := by
  refine Yields.take ?_
  simp only [takeWhile_space h]
  rfl

theorem refuses_space (h : Front (fun c => c ≠ ' ' ∧ c ≠ '\t') s) :
    Refuses space s := by
  refine Refuses.take ?_
  cases s with
  | nil => rfl
  | cons c s =>
      obtain ⟨h₁, h₂⟩ := (front_cons _ c s).1 h
      simp [h₁, h₂]

theorem takes_space? (h : Front IsSolid r) : Takes space? [' '] r := by
  refine Yields.take ?_
  rw [takeWhile_space h]

theorem takes_space?_nil (h : Front (fun c => c ≠ ' ' ∧ c ≠ '\t') r) :
    Takes space? [] r := by
  refine Yields.take ?_
  cases r with
  | nil => rfl
  | cons c r =>
      obtain ⟨h₁, h₂⟩ := (front_cons _ c r).1 h
      simp [h₁, h₂]

theorem takes_blank {w : List Char} (hw : ∀ c ∈ w, Text.isGap c = true)
    (hr : Front IsSolid r) : Takes blank w r := by
  refine Yields.take ?_
  rw [gapLength_append _ (fun c hc => by simp [hw c hc]),
    gapLength_eq_zero (hr.mono fun c hc => ⟨hc, rfl⟩), Nat.add_zero]

theorem takes_gap {w : List Char} (hw : ∀ c ∈ w, Text.isGap c = true)
    (hr : Front IsSolid r) : Takes gap w r := by
  refine Yields.take ?_
  have hsolid : Front (fun c => IsSolid c ∧ (c == ';') = false) r :=
    hr.mono fun c hc => ⟨hc, by simpa using hc.2.2⟩
  rw [gapLength_append _ (fun c hc => by simp [hw c hc]),
    gapLength_eq_zero hsolid, Nat.add_zero]

/-- A line end and the blanks behind it separate two statements. -/
theorem takes_separator {w : List Char} (hw : ∀ c ∈ w, Text.isGap c = true)
    (hr : Front IsSolid r) : Takes separator ('\n' :: w) r := by
  have hend : Takes (take separatorLength?) ['\n'] (w ++ r) :=
    Yields.take (by simp [separatorLength?])
  exact Yields.seq hend (takes_gap hw hr)

theorem refuses_separator_nil : Refuses separator [] :=
  Refuses.bind (Refuses.take rfl)

theorem shortens_char (c : Char) : Shortens 1 (char c) := by
  refine Shortens.take_one fun s n h => ?_
  split at h
  · next hhead =>
    obtain rfl := Option.some.inj h
    exact ⟨le_rfl, by rintro rfl; simp at hhead⟩
  · simp at h

theorem shortens_keyword {word : String} (hword : word.toList ≠ []) :
    Shortens 1 (keyword word) := by
  refine Shortens.take_one fun s n h => ?_
  split at h
  · next hstart =>
    obtain rfl := Option.some.inj h
    obtain ⟨word', hmem, r, rfl, -⟩ := startsWithWord_iff.1 hstart
    obtain rfl : word' = word := by simpa using hmem
    refine ⟨?_, by simp [hword]⟩
    rw [← String.length_toList]
    exact List.length_pos_iff.2 hword
  · simp at h

theorem shortens_space : Shortens 0 space := Shortens.take_zero _

theorem shortens_space? : Shortens 0 space? := Shortens.take_zero _

theorem shortens_blank : Shortens 0 blank := Shortens.take_zero _

theorem shortens_gap : Shortens 0 gap := Shortens.take_zero _

theorem shortens_separator : Shortens 0 separator :=
  (Shortens.take_zero _).bind fun _ => shortens_gap

end Parser

/-! ## Strings -/

/-- Text that a string in double quotes passes over. -/
def IsInert (w : List Char) : Prop :=
  ∀ r, quotedLength? '"' (w ++ r) =
    (quotedLength? '"' r).map (· + w.length)

theorem IsInert.nil : IsInert [] := by
  intro r
  simp

theorem IsInert.append {w v : List Char} (hw : IsInert w) (hv : IsInert v) :
    IsInert (w ++ v) := by
  intro r
  rw [List.append_assoc, hw, hv, Option.map_map, List.length_append]
  congr 1
  funext n
  simp only [Function.comp_apply]
  omega

theorem IsInert.flatMap {α : Type} {f : α → List Char} {xs : List α}
    (h : ∀ x ∈ xs, IsInert (f x)) : IsInert (xs.flatMap f) := by
  induction xs with
  | nil => exact IsInert.nil
  | cons x xs ih =>
      rw [List.flatMap_cons]
      exact (h x (by simp)).append (ih fun y hy => h y (by simp [hy]))

theorem isInert_singleton {c : Char} (hb : c ≠ '\\') (hq : c ≠ '"') :
    IsInert [c] := by
  intro r
  cases r <;> simp [quotedLength?, hb, hq]

theorem isInert_escapeChar (c : Char) : IsInert (Template.escapeChar c) := by
  have hpair : ∀ d : Char, IsInert ['\\', d] := by
    intro d r
    simp [quotedLength?]
  unfold Template.escapeChar
  split
  · exact hpair c
  split
  · exact hpair 'n'
  split
  · exact hpair 'r'
  split
  · exact hpair 't'
  · next hspecial _ _ _ =>
    simp only [Bool.or_eq_true, decide_eq_true_eq, not_or] at hspecial
    exact isInert_singleton hspecial.1.1 hspecial.1.2

theorem isInert_written {s : Template.Stretch} {ss : List Template.Stretch}
    (h : Template.Tidy (s :: ss)) : IsInert (Template.written s) := by
  cases h with
  | @name cs _ hne hid hss =>
      have hsingle : cs.reverse = cs.reverse.flatMap fun c => [c] := by simp
      have hname : IsInert cs.reverse := by
        rw [hsingle]
        refine IsInert.flatMap fun c hc => ?_
        have hc := hid c (List.mem_reverse.1 hc)
        refine isInert_singleton (Template.isIdentifierChar_ne_backslash hc) ?_
        rintro rfl
        revert hc
        decide
      exact IsInert.append (isInert_singleton (by decide) (by decide)) hname
  | plain cs hc hss =>
      exact IsInert.flatMap fun c _ => isInert_escapeChar c

theorem isInert_body {ss : List Template.Stretch} (h : Template.Tidy ss) :
    IsInert (Template.body ss) := by
  induction ss with
  | nil => exact IsInert.nil
  | cons s ss ih =>
      rw [Template.body_cons]
      exact (ih h.tail).append (isInert_written h)

namespace Grammar

open TextShell.Parser

/-- A canonical template is read from its printed form. -/
theorem yields_template {t : Template} (ht : t.Canonical) (r : List Char) :
    Yields dquoteString t.print.toList r fun e =>
      e.toNode Document.name = .ok (.template t) := by
  have hback := Template.parse_print_of_canonical ht
  obtain ⟨ss, htidy, rfl⟩ := ht
  have hprint := Template.print_ofStretches ss
  have hquoted : Takes (take (quotedLength? '"')) (Template.body ss ++ ['"'])
      r := by
    refine Yields.take ?_
    have hclose : quotedLength? '"' ('"' :: r) = some 1 := by
      cases r <;> simp [quotedLength?]
    rw [List.append_assoc, isInert_body htidy, List.singleton_append, hclose,
      List.length_append]
    simp [Nat.add_comm]
  have hleaf := Yields.leaf .dquoteString
    (Yields.seq (w := ['"']) (takes_char '"' _) hquoted)
  rw [hprint]
  refine hleaf.mono ?_
  rintro e ⟨line, col, rfl⟩
  have htext : String.ofList (['"'] ++ (Template.body ss ++ ['"'])) =
      (Template.ofStretches ss).print := by
    rw [← String.toList_inj, String.toList_ofList, hprint]
    rfl
  simp only [Element.toNode, Element.template, Element.text, Element.text?,
    htext, Literal.template, pure, Except.pure, bind, Except.bind, hback]

/-- Whatever is read as a string is a canonical template. -/
theorem string_toNode {tag : Tag} {p : Parser Unit} {at_ stop : Cursor}
    {e : Element}
    (htag : tag = .dquoteString ∨ tag = .squoteString ∨ tag = .bareString)
    (h : leaf tag p at_ = some (e, stop)) :
    ∃ t : Template, t.Canonical ∧
      e.toNode Document.name = .ok (.template t) := by
  obtain ⟨tag', children, hp, rfl⟩ := element_eq_some.1 h
  obtain ⟨u, mid, -, hpure⟩ := bind_eq_some.1 hp
  obtain ⟨heq, -⟩ := pure_eq_some.1 hpure
  obtain ⟨rfl, rfl⟩ := Prod.mk.inj heq
  rcases htag with rfl | rfl | rfl
  · exact ⟨_, Template.parse_canonical _ true, rfl⟩
  · exact ⟨_, Template.parse_canonical _ false, rfl⟩
  · exact ⟨_, Template.parse_canonical _ true, rfl⟩

theorem shortens_dquoteString : Shortens 1 dquoteString :=
  Shortens.leaf ((shortens_char '"').bind_left fun _ => Shortens.take_zero _)

theorem shortens_squoteString : Shortens 1 squoteString :=
  Shortens.leaf ((shortens_char '\'').bind_left fun _ => Shortens.take_zero _)

theorem shortens_bareString : Shortens 1 bareString := by
  refine Shortens.leaf (Shortens.take_one fun s n h => ?_)
  dsimp only at h
  split at h
  · simp at h
  · next hbare =>
    obtain rfl := Option.some.inj h
    simp only [Bool.or_eq_true, decide_eq_true_eq, not_or] at hbare
    refine ⟨Nat.one_le_iff_ne_zero.2 hbare.1.1, ?_⟩
    rintro rfl
    exact hbare.1.1 rfl

/-! ## Names as elements -/

theorem yields_variableName {w r : List Char} (hw : IsName w)
    (hr : NameEnd r) :
    Yields variableName w r (IsElement .variableName w []) :=
  Yields.leaf _ (Yields.take (nameLength?_append hw hr))

theorem refuses_variableName {s : List Char}
    (h : Front (fun c => isNameStart c = false) s) :
    Refuses variableName s :=
  Refuses.leaf (Refuses.take (nameLength?_eq_none h))

theorem nameLength?_shortens {s : List Char} {n : Nat}
    (h : nameLength? s = some n) : 1 ≤ n ∧ s ≠ [] := by
  cases s with
  | nil => simp [nameLength?] at h
  | cons c s =>
      simp only [nameLength?] at h
      split at h
      · obtain rfl := Option.some.inj h
        exact ⟨by omega, by simp⟩
      · simp at h

theorem shortens_variableName : Shortens 1 variableName :=
  Shortens.leaf (Shortens.take_one fun _ _ h => nameLength?_shortens h)

/-- A variable's name, and what is left behind it. -/
theorem variableName_eq_some {at_ stop : Cursor} {e : Element}
    (h : variableName at_ = some (e, stop)) :
    ∃ w, IsName w ∧ IsElement .variableName w [] e := by
  obtain ⟨n, hn, rfl, rfl⟩ := (leaf_eq_some fun s n hn =>
    (nameLength?_eq_some hn).1).1 h
  exact ⟨_, (nameLength?_eq_some hn).2.1, at_.line, at_.col, rfl⟩

/-- The words that cannot name a function are made of name characters. -/
theorem isName_of_mem_reserved : ∀ word ∈ reserved, IsName word.toList := by
  simp only [reserved, List.mem_cons, List.not_mem_nil, or_false]
  rintro word (rfl | rfl | rfl | rfl | rfl | rfl | rfl) <;>
    exact ⟨rfl, by simp; decide⟩

theorem isNameChar_of_mem_reserved :
    ∀ word ∈ reserved, ∀ c ∈ word.toList, isNameChar c = true :=
  fun word hword => (isName_of_mem_reserved word hword).isNameChar

/-- The names that a function can have. -/
def IsFunctionName (w : List Char) : Prop :=
  IsName w ∧ String.ofList w ∉ reserved

theorem yields_functionName {w r : List Char} (hw : IsFunctionName w)
    (hr : NameEnd r) :
    Yields functionName w r (IsElement .functionName w []) := by
  refine Yields.leaf _ (Yields.take ?_)
  have hfree : startsWithWord reserved (w ++ r) = false := by
    refine Bool.eq_false_iff.2 fun hstart => hw.2 ?_
    exact ((startsWithWord_name isNameChar_of_mem_reserved hw.1.isNameChar
      hr).1 hstart).1
  simp only [hfree, Bool.false_eq_true, if_false]
  exact nameLength?_append hw.1 hr

theorem refuses_functionName {s : List Char}
    (h : Front (fun c => isNameStart c = false) s) :
    Refuses functionName s := by
  refine Refuses.leaf (Refuses.take ?_)
  rw [nameLength?_eq_none h, ite_self]

theorem shortens_functionName : Shortens 1 functionName := by
  refine Shortens.leaf (Shortens.take_one fun s n h => ?_)
  split at h
  · simp at h
  · exact nameLength?_shortens h

/-- A function's name is reserved only where a letter that no name can hold
goes on the word. -/
theorem functionName_eq_some {at_ stop : Cursor} {e : Element}
    (h : functionName at_ = some (e, stop)) :
    ∃ w, (atWordEnd stop.rest = true → IsFunctionName w) ∧
      IsElement .functionName w [] e := by
  obtain ⟨n, hn, rfl, rfl⟩ := (leaf_eq_some fun s n hn => by
    split at hn
    · simp at hn
    · exact (nameLength?_eq_some hn).1).1 h
  split at hn
  · simp at hn
  · next hfree =>
    obtain ⟨hle, hname, hend⟩ := nameLength?_eq_some hn
    refine ⟨_, fun hword => ⟨hname, fun hmem => hfree ?_⟩, at_.line, at_.col,
      rfl⟩
    rw [Cursor.skip_rest] at hword
    have hstart := (startsWithWord_name isNameChar_of_mem_reserved
      hname.isNameChar hend).2 ⟨hmem, hword⟩
    rwa [List.take_append_drop] at hstart

/-! ## Parameters -/

/-- The parameter has a name. -/
def Param.IsNamed (p : Param) : Prop := IsName p.name.toList

theorem isName_head_ne_percent {w : List Char} (h : IsName w) :
    Front (fun c => c ≠ '%') w := by
  match w, h with
  | c :: rest, ⟨hc, _⟩ =>
    rw [front_cons]
    rintro rfl
    revert hc
    decide

/-- A parameter is read back from its printed form. -/
theorem Param.ofText_print {p : Param} (h : Param.IsNamed p) :
    TextShell.Param.ofText p.print = p := by
  have hfront := isName_head_ne_percent h
  obtain ⟨name, isVariadic⟩ := p
  have hdrop : name.toList.dropWhile (· == '%') = name.toList := by
    cases hname : name.toList with
    | nil => rfl
    | cons c rest =>
        have hc := (front_cons _ c rest).1 (hname ▸ hfront)
        simp [hc]
  have hhead : (name.toList.head? == some '%') = false := by
    cases hname : name.toList with
    | nil => rfl
    | cons c rest =>
        have hc := (front_cons _ c rest).1 (hname ▸ hfront)
        simpa using hc
  cases isVariadic <;>
    simp [TextShell.Param.ofText, Param.print, hdrop, hhead]

theorem print_of_isVariadic {p : Param} (h : p.isVariadic = true) :
    p.print.toList = '%' :: p.name.toList := by
  simp [Param.print, h]

theorem print_of_not_isVariadic {p : Param} (h : p.isVariadic = false) :
    p.print.toList = p.name.toList := by
  simp [Param.print, h]

theorem yields_formalParam {p : Param} {r : List Char}
    (hp : Param.IsNamed p) (hr : NameEnd r) :
    Yields formalParam p.print.toList r
      (IsElement .formalParam p.print.toList []) := by
  refine Yields.leaf _ (Yields.take ?_)
  have hname := nameLength?_append hp hr
  cases hv : p.isVariadic with
  | true => simp [print_of_isVariadic hv, hname]
  | false =>
      have hfront := isName_head_ne_percent hp
      rw [print_of_not_isVariadic hv]
      cases hchars : p.name.toList with
      | nil => exact absurd hchars hp.ne_nil
      | cons c rest =>
          have hc := (front_cons _ c rest).1 (hchars ▸ hfront)
          rw [hchars] at hname
          simpa [hc] using hname

/-- What is read as a parameter is one with a name. -/
theorem formalParam_eq_some {at_ stop : Cursor} {e : Element}
    (h : formalParam at_ = some (e, stop)) :
    ∃ p : Param, Param.IsNamed p ∧
      IsElement .formalParam p.print.toList [] e := by
  obtain ⟨length?, hparam, hlength⟩ : ∃ length?,
      formalParam = leaf .formalParam (take length?) ∧
      ∀ s n, length? s = some n → n ≤ s.length ∧
        ∃ p : Param, Param.IsNamed p ∧ s.take n = p.print.toList := by
    refine ⟨_, rfl, fun s n hn => ?_⟩
    split at hn
    · next rest =>
      obtain ⟨m, hm, rfl⟩ := Option.map_eq_some_iff.1 hn
      obtain ⟨hle, hname, -⟩ := nameLength?_eq_some hm
      refine ⟨by simp only [List.length_cons]; omega,
        ⟨String.ofList (rest.take m), true⟩, ?_, ?_⟩
      · simpa [Param.IsNamed] using hname
      · simp [print_of_isVariadic]
    · obtain ⟨hle, hname, -⟩ := nameLength?_eq_some hn
      refine ⟨hle, ⟨String.ofList (s.take n), false⟩, ?_, ?_⟩
      · simpa [Param.IsNamed] using hname
      · simp [print_of_not_isVariadic]
  rw [hparam] at h
  obtain ⟨n, hn, rfl, rfl⟩ :=
    (leaf_eq_some fun s n hn => (hlength s n hn).1).1 h
  obtain ⟨-, p, hp, htake⟩ := hlength _ n hn
  exact ⟨p, hp, at_.line, at_.col, by rw [htake]⟩

theorem shortens_formalParam : Shortens 0 formalParam :=
  Shortens.leaf (Shortens.take_zero _)

theorem refuses_formalParam {s : List Char}
    (h : Front (fun c => isNameStart c = false ∧ c ≠ '%') s) :
    Refuses formalParam s := by
  refine Refuses.leaf (Refuses.take ?_)
  cases s with
  | nil => rfl
  | cons c s =>
      obtain ⟨hstart, hpercent⟩ := (front_cons _ c s).1 h
      simp [hpercent, nameLength?, hstart]

end Grammar

end TextShell
