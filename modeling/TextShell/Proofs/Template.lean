import Mathlib
import TextShell.Template

/-!
# Canonical templates

A scan never leaves the templates that can be written back.  Its state is
determined by the stretches it has seen, last first and each read backwards:
`Scan.ofStretches` rebuilds the four parts of the state from them.  The
stretches themselves obey a few local rules, `Tidy`, which say where a
variable can end; every step of a scan keeps them.  A scan loses nothing but the
`$` of each variable: with these marked again, the stretches are the literal with its
escapes resolved.

## Main results

* `scan_tidy` — a scan goes from tidy stretches to tidy stretches.

* `parse_canonical` — every literal is read as a canonical template.
* `parse_print_of_canonical` — a canonical template is read back from what it prints as.
-/

namespace TextShell

namespace Template

/-- A stretch of a template: its kind and its characters, last first. -/
abbrev Stretch := RegionKind × List Char

/-- The number of characters in some stretches. -/
def width (ss : List Stretch) : Nat := (ss.flatMap Prod.snd).length

@[simp] theorem width_nil : width [] = 0 := rfl

@[simp] theorem width_cons (s : Stretch) (ss : List Stretch) :
    width (s :: ss) = s.2.length + width ss := by
  simp [width]

/-- The regions of stretches, last first. -/
def regionsOf : List Stretch → List Region
  | [] => []
  | s :: ss => ⟨s.1, width ss, width ss + s.2.length⟩ :: regionsOf ss

/-- The state of a scan that has seen these stretches, of which the first is
the open one. -/
def Scan.ofStretches : List Stretch → Scan
  | [] => {}
  | s :: ss =>
    { text := s.2 ++ ss.flatMap Prod.snd
      size := s.2.length + width ss
      regions := regionsOf ss
      current := some (s.1, width ss) }

/-- The template of stretches. -/
def ofStretches (ss : List Stretch) : Template :=
  ⟨String.ofList (ss.flatMap Prod.snd).reverse, (regionsOf ss).reverse⟩

/-- A literal stretch may stand above these: they are none, or end in a
variable, which the first character of the literal then has to close. -/
def Opens (c : Char) : List Stretch → Prop
  | [] => True
  | (.literal, _) :: _ => False
  | (.variable, _) :: _ => isIdentifierChar c = false

/-- Stretches that a scan can leave, last first: none is empty, the names of
variables are made of identifier characters, and no literal could have been
part of what stands before it. -/
inductive Tidy : List Stretch → Prop
  | nil : Tidy []
  | name {cs : List Char} {ss : List Stretch} (hne : cs ≠ [])
      (hid : ∀ c ∈ cs, isIdentifierChar c = true) (hss : Tidy ss) :
      Tidy ((.variable, cs) :: ss)
  | plain (cs : List Char) {c : Char} {ss : List Stretch} (hc : Opens c ss)
      (hss : Tidy ss) : Tidy ((.literal, cs ++ [c]) :: ss)

/-- The text of stretches, last first, with a `$` in front of each variable. -/
def marked (ss : List Stretch) : List Char :=
  ss.flatMap fun s => match s.1 with
    | .literal => s.2
    | .variable => s.2 ++ ['$']

@[simp] theorem marked_nil : marked [] = [] := rfl

@[simp] theorem marked_literal (cs : List Char) (ss : List Stretch) :
    marked ((.literal, cs) :: ss) = cs ++ marked ss := rfl

@[simp] theorem marked_variable (cs : List Char) (ss : List Stretch) :
    marked ((.variable, cs) :: ss) = cs ++ '$' :: marked ss := by
  simp [marked]

/-- The body of a literal with its escapes resolved.  A backslash at its end is
dropped. -/
def resolve : List Char → List Char
  | [] => []
  | '\\' :: [] => []
  | '\\' :: c :: rest => unescape c :: resolve rest
  | c :: rest => c :: resolve rest

theorem resolve_cons {c : Char} (hb : c ≠ '\\') (rest : List Char) :
    resolve (c :: rest) = c :: resolve rest := by
  rw [resolve] <;> intros <;> contradiction

/-- Templates that a literal can be read as. -/
def Canonical (t : Template) : Prop := ∃ ss, Tidy ss ∧ t = ofStretches ss

theorem Tidy.chars_ne_nil {s : Stretch} {ss : List Stretch}
    (h : Tidy (s :: ss)) : s.2 ≠ [] := by
  cases h with
  | name hne _ _ => exact hne
  | plain _ _ _ => simp

/-! ## Steps of a scan -/

theorem push_ofStretches_literal (c : Char) (cs : List Char)
    (ss : List Stretch) :
    (Scan.ofStretches ((.literal, cs) :: ss)).push c =
      Scan.ofStretches ((.literal, c :: cs) :: ss) := by
  simp only [Scan.ofStretches, Scan.push, List.cons_append, List.length_cons]
  congr 1
  omega

theorem push_ofStretches_variable {c : Char} (hc : isIdentifierChar c = true)
    (cs : List Char) (ss : List Stretch) :
    (Scan.ofStretches ((.variable, cs) :: ss)).push c =
      Scan.ofStretches ((.variable, c :: cs) :: ss) := by
  simp only [Scan.ofStretches, Scan.push, hc, if_true, List.cons_append,
    List.length_cons]
  congr 1
  omega

/-- A character that no open stretch takes starts a literal. -/
theorem push_ofStretches_opens {c : Char} {ss : List Stretch}
    (hc : Opens c ss) :
    (Scan.ofStretches ss).push c = Scan.ofStretches ((.literal, [c]) :: ss) := by
  match ss, hc with
  | [], _ => rfl
  | (.variable, cs) :: ss, hc =>
    have hc : isIdentifierChar c = false := hc
    simp only [Scan.ofStretches, Scan.push, hc, Bool.false_eq_true, if_false,
      List.cons_append, List.nil_append, List.flatMap_cons, regionsOf,
      List.length_singleton, width_cons]
    congr 1
    · omega
    · congr 2
      push_cast
      omega

/-- Closing the open stretch gives the regions of all. -/
theorem close_ofStretches {ss : List Stretch} (h : Tidy ss) :
    (Scan.ofStretches ss).close = regionsOf ss := by
  cases ss with
  | nil => rfl
  | cons s ss =>
      have hpos : 0 < s.2.length := List.length_pos_iff.2 h.chars_ne_nil
      have hlt : width ss < s.2.length + width ss := by omega
      simp only [Scan.close, Scan.ofStretches, hlt, if_true, regionsOf]
      congr 2
      push_cast
      omega

theorem openVariable_ofStretches {ss : List Stretch} (h : Tidy ss) :
    (Scan.ofStretches ss).openVariable =
      Scan.ofStretches ((.variable, []) :: ss) := by
  have hclose := close_ofStretches h
  cases ss with
  | nil => rfl
  | cons s ss =>
      rw [Scan.openVariable, hclose]
      simp [Scan.ofStretches]

/-- One more character keeps the stretches tidy. -/
theorem push_tidy {ss : List Stretch} (h : Tidy ss) (c : Char) :
    ∃ ss', Tidy ss' ∧ (Scan.ofStretches ss).push c = Scan.ofStretches ss' ∧
      marked ss' = c :: marked ss := by
  cases h with
  | nil =>
      exact ⟨[(.literal, [c])], .plain [] trivial .nil,
        push_ofStretches_opens trivial, rfl⟩
  | @name cs ss hne hid hss =>
      by_cases hc : isIdentifierChar c = true
      · refine ⟨(.variable, c :: cs) :: ss, .name (by simp) ?_ hss,
          push_ofStretches_variable hc cs ss, by simp⟩
        intro d hd
        rcases List.mem_cons.1 hd with rfl | hd
        · exact hc
        · exact hid d hd
      · have hopens : Opens c ((.variable, cs) :: ss) := by
          simpa [Opens] using hc
        exact ⟨_, .plain [] hopens (.name hne hid hss),
          push_ofStretches_opens hopens, rfl⟩
  | @plain cs d ss hd hss =>
      exact ⟨_, .plain (c :: cs) hd hss,
        push_ofStretches_literal c (cs ++ [d]) ss, rfl⟩

/-! ## Whole scans -/

theorem isIdentifierChar_ne_backslash {c : Char}
    (h : isIdentifierChar c = true) : c ≠ '\\' := by
  rintro rfl
  revert h
  decide

theorem isIdentifierChar_ne_dollar {c : Char}
    (h : isIdentifierChar c = true) : c ≠ '$' := by
  rintro rfl
  revert h
  decide

/-- A character that is neither a backslash nor a `$` is taken as it is. -/
theorem scan_cons (expand : Bool) (s : Scan) {c : Char} (hb : c ≠ '\\')
    (hd : c ≠ '$') (rest : List Char) :
    scan expand s (c :: rest) = scan expand (s.push c) rest := by
  cases rest <;> simp [scan, hb, hd]

/-- A scan goes from tidy stretches to tidy stretches, and with the variables marked
it only resolves escapes.  The recursion is that of `scan`, except that the `$` of a
variable and the first character of its name are taken in one step: between the two
the open stretch is empty. -/
theorem scan_tidy (expand : Bool) :
    ∀ (cs : List Char) {ss : List Stretch}, Tidy ss →
      ∃ ss', Tidy ss' ∧ scan expand (Scan.ofStretches ss) cs = Scan.ofStretches ss' ∧
        marked ss' = (resolve cs).reverse ++ marked ss
  | [], ss, h => ⟨ss, h, rfl, rfl⟩
  | [c], ss, h => by
    by_cases hb : c = '\\'
    · subst hb
      exact ⟨ss, h, rfl, rfl⟩
    · obtain ⟨ss', htidy, hpush, hmarked⟩ := push_tidy h c
      refine ⟨ss', htidy, ?_, ?_⟩
      · rw [← hpush]
        simp [scan, hb]
      · rw [hmarked, resolve_cons hb]
        rfl
  | c :: next :: rest, ss, h => by
    by_cases hb : c = '\\'
    · subst hb
      obtain ⟨ss₁, htidy, hpush, hmarked⟩ := push_tidy h (unescape next)
      obtain ⟨ss', htidy', hscan, hmarked'⟩ := scan_tidy expand rest htidy
      refine ⟨ss', htidy', ?_, ?_⟩
      · rw [scan, hpush, hscan]
      · rw [hmarked', hmarked, resolve]
        simp
    by_cases hopen : c = '$' ∧ (expand && isIdentifierChar next) = true
    · obtain ⟨rfl, hexp⟩ := hopen
      have hid : isIdentifierChar next = true := by
        simp only [Bool.and_eq_true] at hexp
        exact hexp.2
      have htidy : Tidy ((.variable, [next]) :: ss) :=
        .name (by simp) (by simpa using hid) h
      have hstep : scan expand (Scan.ofStretches ss) ('$' :: next :: rest) =
          scan expand (Scan.ofStretches ((.variable, [next]) :: ss)) rest := by
        rw [scan, if_pos hexp, openVariable_ofStretches h,
          scan_cons expand _ (isIdentifierChar_ne_backslash hid)
            (isIdentifierChar_ne_dollar hid),
          push_ofStretches_variable hid]
      obtain ⟨ss', htidy', hscan, hmarked⟩ := scan_tidy expand rest htidy
      refine ⟨ss', htidy', hstep.trans hscan, ?_⟩
      rw [hmarked, resolve_cons hb, resolve_cons (isIdentifierChar_ne_backslash hid)]
      simp
    · obtain ⟨ss₁, htidy, hpush, hmarked⟩ := push_tidy h c
      have hstep : scan expand (Scan.ofStretches ss) (c :: next :: rest) =
          scan expand (Scan.ofStretches ss₁) (next :: rest) := by
        by_cases hd : c = '$'
        · subst hd
          have hexp : ¬(expand && isIdentifierChar next) = true :=
            fun hexp => hopen ⟨rfl, hexp⟩
          rw [scan, if_neg hexp, hpush]
        · rw [scan_cons expand _ hb hd, hpush]
      obtain ⟨ss', htidy', hscan, hmarked'⟩ := scan_tidy expand (next :: rest) htidy
      refine ⟨ss', htidy', hstep.trans hscan, ?_⟩
      rw [hmarked', hmarked, resolve_cons hb, List.reverse_cons]
      simp

/-- The template of a scan that has seen tidy stretches. -/
theorem ofStretches_eq {ss : List Stretch} (h : Tidy ss) :
    (⟨String.ofList (Scan.ofStretches ss).text.reverse,
      (Scan.ofStretches ss).close.reverse⟩ : Template) = ofStretches ss := by
  rw [close_ofStretches h, ofStretches]
  cases ss <;> rfl

/-- The stretches of a literal. -/
theorem exists_stretches (raw : String) (expand : Bool) :
    ∃ ss, Tidy ss ∧ parse raw expand = ofStretches ss ∧
      (marked ss).reverse = resolve (stripQuotes raw.toList) := by
  obtain ⟨ss, htidy, hscan, hmarked⟩ := scan_tidy expand (stripQuotes raw.toList) .nil
  have hinit : ({} : Scan) = Scan.ofStretches [] := rfl
  refine ⟨ss, htidy, ?_, ?_⟩
  · rw [parse, hinit, hscan]
    exact ofStretches_eq htidy
  · rw [hmarked, marked_nil, List.append_nil, List.reverse_reverse]

/-- Every literal is read as a canonical template. -/
theorem parse_canonical (raw : String) (expand : Bool) :
    (parse raw expand).Canonical := by
  obtain ⟨ss, htidy, hparse, -⟩ := exists_stretches raw expand
  exact ⟨ss, htidy, hparse⟩

/-! ## Printing -/

/-- A stretch as it stands between double quotes. -/
def written : Stretch → List Char
  | (.literal, cs) => cs.reverse.flatMap escapeChar
  | (.variable, cs) => '$' :: cs.reverse

/-- What stands between the double quotes. -/
def body (ss : List Stretch) : List Char := ss.reverse.flatMap written

@[simp] theorem body_nil : body [] = [] := rfl

@[simp] theorem body_cons (s : Stretch) (ss : List Stretch) :
    body (s :: ss) = body ss ++ written s := by
  simp [body]

theorem clipBound_of_le {n i : Nat} (h : i ≤ n) : clipBound n i = i := by
  have hnonneg : ¬((i : Int) < 0) := by omega
  simp only [clipBound, hnonneg, if_false, Int.toNat_natCast]
  omega

/-- A slice whose bounds are the lengths of what stands before it. -/
theorem slice_append (front mid back : List Char) :
    slice (front ++ mid ++ back).toArray front.length
      (front.length + mid.length) = mid := by
  have hstart : front.length ≤ (front ++ mid ++ back).length := by
    simp only [List.length_append]; omega
  have hstop : front.length + mid.length ≤ (front ++ mid ++ back).length := by
    simp only [List.length_append]; omega
  rw [slice, List.size_toArray, clipBound_of_le hstart]
  have hcast : ((front.length : Int) + (mid.length : Int)) =
      ((front.length + mid.length : Nat) : Int) := by push_cast; rfl
  rw [hcast, clipBound_of_le hstop]
  simp [List.extract_eq_take_drop, List.append_assoc]

/-- The regions cut the text into the stretches they were made of; `back` is
the text behind them. -/
theorem map_slice_regionsOf (ss : List Stretch) (back : List Char) :
    (regionsOf ss).map (fun r => (r.kind, String.ofList (slice
        ((ss.flatMap Prod.snd).reverse ++ back).toArray r.start r.stop))) =
      ss.map (fun s => (s.1, String.ofList s.2.reverse)) := by
  induction ss generalizing back with
  | nil => rfl
  | cons s ss ih =>
      have htext : ((s :: ss).flatMap Prod.snd).reverse ++ back =
          (ss.flatMap Prod.snd).reverse ++ (s.2.reverse ++ back) := by
        simp
      have hslice := slice_append (ss.flatMap Prod.snd).reverse s.2.reverse back
      simp only [List.length_reverse, List.append_assoc] at hslice
      rw [htext]
      simp only [regionsOf, List.map_cons, ih, width, hslice]

theorem pieces_ofStretches (ss : List Stretch) :
    (ofStretches ss).pieces =
      (ss.map fun s => (s.1, String.ofList s.2.reverse)).reverse := by
  have h := map_slice_regionsOf ss []
  rw [List.append_nil] at h
  simp only [pieces, ofStretches, String.toList_ofList, List.map_reverse, h]

/-- A template prints as the body of its stretches in double quotes. -/
theorem print_ofStretches (ss : List Stretch) :
    (ofStretches ss).print.toList = '"' :: (body ss ++ ['"']) := by
  rw [print, pieces_ofStretches]
  simp only [String.toList_append, String.toList_join, List.flatMap_map,
    ← List.map_reverse, body]
  change '"' :: (List.flatMap _ ss.reverse ++ ['"']) = _
  congr 3
  funext s
  obtain ⟨kind, cs⟩ := s
  cases kind <;> simp [written]

/-! ## Reading back -/

/-- An escaped character is one step of a scan. -/
theorem scan_escapeChar (s : Scan) (c : Char) (rest : List Char) :
    scan true s (escapeChar c ++ rest) = scan true (s.push c) rest := by
  by_cases h₁ : c = '\\'
  · subst h₁; simp [escapeChar, scan, unescape]
  by_cases h₂ : c = '"'
  · subst h₂; simp [escapeChar, scan, unescape]
  by_cases h₃ : c = '$'
  · subst h₃; simp [escapeChar, scan, unescape]
  by_cases h₄ : c = '\n'
  · subst h₄; simp [escapeChar, scan, unescape]
  by_cases h₅ : c = '\r'
  · subst h₅; simp [escapeChar, scan, unescape]
  by_cases h₆ : c = '\t'
  · subst h₆; simp [escapeChar, scan, unescape]
  have hself : escapeChar c = [c] := by
    simp [escapeChar, h₁, h₂, h₃, h₄, h₅, h₆]
  rw [hself, List.singleton_append, scan_cons true s h₁ h₃]

/-- The rest of a name is read into the open variable. -/
theorem scan_name {cs : List Char}
    (hid : ∀ c ∈ cs, isIdentifierChar c = true) (open_ : List Char)
    (ss : List Stretch) (rest : List Char) :
    scan true (Scan.ofStretches ((.variable, open_) :: ss)) (cs ++ rest) =
      scan true (Scan.ofStretches ((.variable, cs.reverse ++ open_) :: ss))
        rest := by
  induction cs generalizing open_ with
  | nil => rfl
  | cons c cs ih =>
      have hc : isIdentifierChar c = true := hid c (by simp)
      rw [List.cons_append,
        scan_cons true _ (isIdentifierChar_ne_backslash hc)
          (isIdentifierChar_ne_dollar hc),
        push_ofStretches_variable hc,
        ih (fun d hd => hid d (by simp [hd]))]
      simp

/-- The rest of a literal is read into the open literal. -/
theorem scan_plain (cs open_ : List Char) (ss : List Stretch)
    (rest : List Char) :
    scan true (Scan.ofStretches ((.literal, open_) :: ss))
        (cs.flatMap escapeChar ++ rest) =
      scan true (Scan.ofStretches ((.literal, cs.reverse ++ open_) :: ss))
        rest := by
  induction cs generalizing open_ with
  | nil => rfl
  | cons c cs ih =>
      rw [List.flatMap_cons, List.append_assoc, scan_escapeChar,
        push_ofStretches_literal, ih]
      simp

/-- A stretch that may stand above tidy ones is read back as itself. -/
theorem scan_written {s : Stretch} {ss : List Stretch} (h : Tidy (s :: ss))
    (rest : List Char) :
    scan true (Scan.ofStretches ss) (written s ++ rest) =
      scan true (Scan.ofStretches (s :: ss)) rest := by
  cases h with
  | @name cs _ hne hid hss =>
      obtain ⟨c, front, hcs⟩ := List.exists_cons_of_ne_nil
        (List.reverse_ne_nil_iff.2 hne)
      have hid' : ∀ d ∈ c :: front, isIdentifierChar d = true := by
        intro d hd
        exact hid d (List.mem_reverse.1 (hcs ▸ hd))
      have hopen : scan true (Scan.ofStretches ss)
          ('$' :: c :: (front ++ rest)) =
          scan true (Scan.ofStretches ((.variable, []) :: ss))
            (c :: (front ++ rest)) := by
        rw [scan, if_pos (by simpa using hid' c (by simp)),
          openVariable_ofStretches hss]
      have hname := scan_name hid' [] ss rest
      rw [written, hcs, List.cons_append, List.cons_append, hopen,
        ← List.cons_append, hname, ← hcs]
      simp
  | @plain cs c _ hc hss =>
      rw [written, List.reverse_append, List.reverse_singleton,
        List.singleton_append, List.flatMap_cons, List.append_assoc,
        scan_escapeChar, push_ofStretches_opens hc, scan_plain,
        List.reverse_reverse]

theorem Tidy.tail {s : Stretch} {ss : List Stretch} (h : Tidy (s :: ss)) :
    Tidy ss := by
  cases h with
  | name _ _ hss => exact hss
  | plain _ _ hss => exact hss

/-- The body of tidy stretches is read back as them. -/
theorem scan_body {ss : List Stretch} (h : Tidy ss) (rest : List Char) :
    scan true {} (body ss ++ rest) =
      scan true (Scan.ofStretches ss) rest := by
  induction ss generalizing rest with
  | nil => rfl
  | cons s ss ih =>
      rw [body_cons, List.append_assoc, ih h.tail, scan_written h]

/-- A canonical template is read back from what it prints as. -/
theorem parse_print_of_canonical {t : Template} (h : t.Canonical) :
    parse t.print true = t := by
  obtain ⟨ss, htidy, rfl⟩ := h
  have hstrip : stripQuotes (ofStretches ss).print.toList = body ss := by
    rw [print_ofStretches]
    simp [stripQuotes]
  have hscan := scan_body htidy []
  rw [List.append_nil, scan] at hscan
  rw [parse, hstrip, hscan]
  exact ofStretches_eq htidy

end Template

end TextShell
