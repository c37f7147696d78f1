import Mathlib
import TextShell.Value.Basic

/-!
# Cutting a text and putting it together again

What the three ways to cut a text find, said through places in the text and not through
the search.  A separator is cut out at the occurrences that a search from the left meets
(`LeftmostCuts`); without a separator the pieces are the stretches between blanks
(`IsRun`).

A list is kept as a text and cut again whenever it is used, so the other half of the
theory is when cutting undoes joining.  A separator that overlaps itself can be found
across a seam, as `aa` is in `a` joined with `a`; one that does not (`Unbordered`) is found
where it was put and nowhere else.

## Main results

* `exists_leftmostCuts` — cutting takes the leftmost occurrences that do not overlap.
* `splitAt_intercalate` — cutting undoes joining if the separator does not overlap itself.
* `exists_runs` — the words of a text are its maximal runs of characters that are no blanks.
* `Value.split_loses_nothing` — both, of the pieces of a value.
-/

namespace TextShell.Text

/-! ## Occurrences -/

theorem dropStart?_eq_some {start s rest : List Char} :
    dropStart? start s = some rest ↔ s = start ++ rest := by
  induction start generalizing s with
  | nil => simp [dropStart?]
  | cons p start ih =>
      cases s with
      | nil => simp [dropStart?]
      | cons c s =>
          by_cases hpc : p = c
          · subst hpc
            simp [dropStart?, ih]
          · simp [dropStart?, hpc, Ne.symm hpc]

theorem dropStart?_eq_none {start s : List Char} :
    dropStart? start s = none ↔ ¬ start <+: s := by
  rw [Option.eq_none_iff_forall_ne_some]
  constructor
  · rintro h ⟨rest, rfl⟩
    exact h rest (dropStart?_eq_some.2 rfl)
  · intro h rest hrest
    exact h ⟨rest, (dropStart?_eq_some.1 hrest).symm⟩

/-- The text `sep` stands at place `i` of `s`. -/
def OccursAt (sep s : List Char) (i : Nat) : Prop := sep <+: s.drop i

/-- Places behind a front are places of the rest. -/
theorem occursAt_append (sep front s : List Char) (i : Nat) :
    OccursAt sep (front ++ s) (front.length + i) ↔ OccursAt sep s i := by
  simp [OccursAt]

theorem infix_of_occursAt {sep s : List Char} {i : Nat} (h : OccursAt sep s i) : sep <:+: s :=
  h.isInfix.trans (List.drop_suffix i s).isInfix

/-- A text inside the front has its place there. -/
theorem exists_occursAt_of_infix {sep front : List Char} (h : sep <:+: front)
    (s : List Char) : ∃ i, i + sep.length ≤ front.length ∧ OccursAt sep (front ++ s) i := by
  obtain ⟨before, after, rfl⟩ := h
  refine ⟨before.length, by simp, ?_⟩
  rw [List.append_assoc, List.append_assoc]
  have hplace := (occursAt_append sep before (sep ++ (after ++ s)) 0).2 ⟨after ++ s, rfl⟩
  simpa using hplace

/-! ## The first cut -/

theorem cut?_eq_none {sep s : List Char} : cut? sep s = none ↔ ¬ sep <:+: s := by
  induction s with
  | nil => simp [cut?, dropStart?_eq_none]
  | cons c s ih =>
      rw [List.infix_cons_iff, not_or, ← ih, ← dropStart?_eq_none, cut?]
      cases dropStart? sep (c :: s) <;> simp

theorem cut?_spec {sep s before after : List Char} (h : cut? sep s = some (before, after)) :
    s = before ++ (sep ++ after) ∧ ∀ i < before.length, ¬ OccursAt sep s i := by
  induction s generalizing before after with
  | nil =>
      obtain ⟨rest, hrest, heq⟩ := Option.map_eq_some_iff.1 h
      obtain ⟨rfl, rfl⟩ := Prod.mk.inj heq
      exact ⟨by simpa using dropStart?_eq_some.1 hrest, by simp⟩
  | cons c s ih =>
      unfold cut? at h
      cases hstart : dropStart? sep (c :: s) with
      | some rest =>
          rw [hstart] at h
          obtain ⟨rfl, rfl⟩ := Prod.mk.inj (Option.some.inj h)
          exact ⟨by simpa using dropStart?_eq_some.1 hstart, by simp⟩
      | none =>
          rw [hstart] at h
          obtain ⟨⟨front, rest⟩, hcut, heq⟩ := Option.map_eq_some_iff.1 h
          obtain ⟨rfl, rfl⟩ := Prod.mk.inj heq
          obtain ⟨hs, hearlier⟩ := ih hcut
          refine ⟨by simp [hs], fun i hi => ?_⟩
          cases i with
          | zero => exact dropStart?_eq_none.1 hstart
          | succ i => exact hearlier i (Nat.lt_of_succ_lt_succ hi)

/-- The first cut is made at the first occurrence. -/
theorem cut?_eq_some {sep s before after : List Char} :
    cut? sep s = some (before, after) ↔
      s = before ++ (sep ++ after) ∧ ∀ i < before.length, ¬ OccursAt sep s i := by
  refine ⟨cut?_spec, fun ⟨hs, hearlier⟩ => ?_⟩
  have hplace : ∀ front rest, s = front ++ (sep ++ rest) → OccursAt sep s front.length := by
    rintro front rest rfl
    exact (occursAt_append sep front (sep ++ rest) 0).2 ⟨rest, rfl⟩
  cases hcut : cut? sep s with
  | none => exact absurd (infix_of_occursAt (hplace before after hs)) (cut?_eq_none.1 hcut)
  | some parts =>
      obtain ⟨front, rest⟩ := parts
      obtain ⟨hs', hearlier'⟩ := cut?_spec hcut
      -- Two first occurrences are at one place.
      have hlength : front.length = before.length := by
        have h₁ := hearlier front.length
        have h₂ := hearlier' before.length
        have h₃ := hplace front rest hs'
        have h₄ := hplace before after hs
        rcases Nat.lt_trichotomy front.length before.length with h | h | h
        · exact absurd h₃ (h₁ h)
        · exact h
        · exact absurd h₄ (h₂ h)
      obtain ⟨rfl, hrest⟩ := List.append_inj (hs'.symm.trans hs) hlength
      rw [List.append_cancel_left hrest]

/-! ## All cuts -/

theorem splitAt_of_absent {sep s : List Char} (h : ¬ sep <:+: s) : splitAt sep s = [s] := by
  have hsep : sep ≠ [] := by
    rintro rfl
    exact h List.nil_infix
  rw [splitAt, dif_neg hsep]
  split
  · rfl
  · next hcut => rw [cut?_eq_none.2 h] at hcut; cases hcut

theorem splitAt_of_cut {sep s before after : List Char} (hsep : sep ≠ [])
    (h : cut? sep s = some (before, after)) :
    splitAt sep s = before :: splitAt sep after := by
  rw [splitAt, dif_neg hsep]
  split
  · next hcut => rw [h] at hcut; cases hcut
  · next hcut =>
      rw [h] at hcut
      obtain ⟨rfl, rfl⟩ := Prod.mk.inj (Option.some.inj hcut)
      rfl

/-- A text without the separator has no cut; any other is one piece in front of the first
occurrence and the pieces of what is behind it. -/
theorem splitAt_induction {sep : List Char} (hsep : sep ≠ [])
    {P : List Char → List (List Char) → Prop}
    (whole : ∀ s, ¬ sep <:+: s → P s [s])
    (cut : ∀ before after, (∀ i < before.length, ¬ OccursAt sep (before ++ (sep ++ after)) i) →
      P after (splitAt sep after) →
      P (before ++ (sep ++ after)) (before :: splitAt sep after))
    (s : List Char) : P s (splitAt sep s) := by
  induction hn : s.length using Nat.strong_induction_on generalizing s with
  | _ n ih =>
      cases hcut : cut? sep s with
      | none =>
          have habsent := cut?_eq_none.1 hcut
          rw [splitAt_of_absent habsent]
          exact whole s habsent
      | some parts =>
          obtain ⟨before, after⟩ := parts
          have hlength := cut?_length hcut
          have hpos : 0 < sep.length := List.length_pos_iff.2 hsep
          rw [splitAt_of_cut hsep hcut]
          obtain ⟨rfl, hearlier⟩ := cut?_spec hcut
          exact cut before after hearlier (ih after.length (by omega) after rfl)

theorem splitAt_ne_nil (sep s : List Char) : splitAt sep s ≠ [] := by
  unfold splitAt
  split
  · simp
  · split <;> simp

/-- The pieces with the separator between them are the text. -/
theorem intercalate_splitAt {sep : List Char} (hsep : sep ≠ []) (s : List Char) :
    sep.intercalate (splitAt sep s) = s := by
  induction s using splitAt_induction hsep with
  | whole s _ => simp
  | cut before after _ ih =>
      obtain ⟨piece, rest, hpieces⟩ := List.exists_cons_of_ne_nil (splitAt_ne_nil sep after)
      rw [hpieces] at ih ⊢
      rw [List.intercalate_cons_cons, ih, List.append_assoc]

/-- No piece holds the separator. -/
theorem not_infix_of_mem_splitAt {sep : List Char} (hsep : sep ≠ []) (s : List Char) :
    ∀ piece ∈ splitAt sep s, ¬ sep <:+: piece := by
  induction s using splitAt_induction hsep with
  | whole s habsent => simpa using habsent
  | cut before after hearlier ih =>
      refine List.forall_mem_cons.2 ⟨fun hinside => ?_, ih⟩
      obtain ⟨i, hi, hoccurs⟩ := exists_occursAt_of_infix hinside (sep ++ after)
      have hpos : 0 < sep.length := List.length_pos_iff.2 hsep
      exact hearlier i (by omega) hoccurs

theorem length_splitAt_le {sep : List Char} (hsep : sep ≠ []) (s : List Char) :
    (splitAt sep s).length ≤ s.length + 1 := by
  induction s using splitAt_induction hsep with
  | whole s _ => simp
  | cut before after _ ih =>
      have hpos : 0 < sep.length := List.length_pos_iff.2 hsep
      simp only [List.length_cons, List.length_append]
      omega

/-- The places are those of occurrences that do not overlap, and of these the leftmost: an
occurrence is left out only if it begins inside one that is not. -/
structure LeftmostCuts (sep s : List Char) (cuts : List Nat) : Prop where
  occurs : ∀ i ∈ cuts, OccursAt sep s i
  apart : cuts.Pairwise fun i j => i + sep.length ≤ j
  leftmost : ∀ j, OccursAt sep s j → ∃ i ∈ cuts, i ≤ j ∧ j < i + sep.length

/-- The pieces of `s` from `start` on, if `width` characters are cut out at each place. -/
def between (width : Nat) (s : List Char) : Nat → List Nat → List (List Char)
  | start, [] => [s.drop start]
  | start, i :: cuts => (s.drop start).take (i - start) :: between width s (i + width) cuts

theorem between_append (width : Nat) (front s : List Char) (start : Nat) (cuts : List Nat) :
    between width (front ++ s) (front.length + start) (cuts.map (front.length + ·)) =
      between width s start cuts := by
  induction cuts generalizing start with
  | nil => simp [between]
  | cons i cuts ih =>
      have hwidth : front.length + i - (front.length + start) = i - start := by omega
      simp [between, hwidth, Nat.add_assoc, ih]

/-- The cuts of a text are the first one and those behind it. -/
theorem LeftmostCuts.cons {sep before after : List Char} {cuts : List Nat}
    (hearlier : ∀ i < before.length, ¬ OccursAt sep (before ++ (sep ++ after)) i)
    (h : LeftmostCuts sep after cuts) :
    LeftmostCuts sep (before ++ (sep ++ after))
      (before.length :: cuts.map ((before ++ sep).length + ·)) where
  occurs := by
    refine List.forall_mem_cons.2 ⟨?_, List.forall_mem_map.2 fun i hi => ?_⟩
    · exact (occursAt_append sep before (sep ++ after) 0).2 ⟨after, rfl⟩
    · rw [← List.append_assoc, occursAt_append]
      exact h.occurs i hi
  apart := by
    refine List.pairwise_cons.2 ⟨List.forall_mem_map.2 fun i _ => ?_, ?_⟩
    · simp
    · exact List.pairwise_map.2 (h.apart.imp fun hij => by omega)
  leftmost j hj := by
    rcases Nat.lt_or_ge j (before ++ sep).length with hfront | hbehind
    · refine ⟨before.length, by simp, ?_, by simpa using hfront⟩
      exact Nat.le_of_not_lt fun hlt => hearlier j hlt hj
    · obtain ⟨k, rfl⟩ := Nat.exists_eq_add_of_le hbehind
      rw [← List.append_assoc, occursAt_append] at hj
      obtain ⟨i, hi, hle, hlt⟩ := h.leftmost k hj
      exact ⟨(before ++ sep).length + i, by simp [hi], by omega, by omega⟩

/-- The pieces are what the leftmost occurrences leave. -/
theorem exists_leftmostCuts {sep : List Char} (hsep : sep ≠ []) (s : List Char) :
    ∃ cuts, LeftmostCuts sep s cuts ∧ splitAt sep s = between sep.length s 0 cuts := by
  induction s using splitAt_induction hsep with
  | whole s habsent =>
      refine ⟨[], ⟨by simp, .nil, fun j hj => ?_⟩, rfl⟩
      exact absurd (infix_of_occursAt hj) habsent
  | cut before after hearlier ih =>
      obtain ⟨cuts, hcuts, hpieces⟩ := ih
      refine ⟨_, hcuts.cons hearlier, ?_⟩
      have hbehind := between_append sep.length (before ++ sep) after 0 cuts
      rw [List.append_assoc, List.length_append, Nat.add_zero] at hbehind
      simp only [between, List.length_append]
      rw [hbehind, hpieces]
      simp

/-! ## Joining, and cutting again -/

/-- Nothing but the whole is both a front and an end of the separator. -/
def Unbordered (sep : List Char) : Prop := ∀ b, b <+: sep → b <:+ sep → b = [] ∨ b = sep

theorem unbordered_iff {sep : List Char} :
    Unbordered sep ↔ ∀ b ∈ sep.inits, b <:+ sep → b = [] ∨ b = sep := by
  simp [Unbordered]

instance (sep : List Char) : Decidable (Unbordered sep) :=
  decidable_of_iff _ unbordered_iff.symm

/-- A separator that does not overlap itself is not found in front of the seam. -/
theorem not_occursAt_seam {sep : List Char} (hsep : Unbordered sep) {piece : List Char}
    (hpiece : ¬ sep <:+: piece) (rest : List Char) {i : Nat} (hi : i < piece.length) :
    ¬ OccursAt sep (piece ++ (sep ++ rest)) i := by
  intro hoccurs
  unfold OccursAt at hoccurs
  rw [List.drop_append_of_le_length hi.le] at hoccurs
  generalize htail : piece.drop i = tail at hoccurs
  have hnonempty : tail ≠ [] := by
    rw [← htail, Ne, List.drop_eq_nil_iff]
    omega
  rcases Nat.le_total sep.length tail.length with hlong | hshort
  · -- The occurrence would end inside the piece.
    have hwhole := List.prefix_of_prefix_length_le hoccurs (List.prefix_append _ _) hlong
    exact hpiece ((htail ▸ hwhole).isInfix.trans (List.drop_suffix i piece).isInfix)
  · -- What it takes of the separator would be a front and an end of it.
    obtain ⟨border, rfl⟩ := List.prefix_of_prefix_length_le (List.prefix_append _ _) hoccurs hshort
    have hborder : border <+: tail ++ border ++ rest :=
      (List.prefix_append_right_inj tail).1 hoccurs
    have hfront := List.prefix_of_prefix_length_le hborder (List.prefix_append _ _) (by simp)
    rcases hsep border hfront (List.suffix_append _ _) with rfl | hwhole
    · refine hpiece ?_
      rw [List.append_nil, ← htail]
      exact (List.drop_suffix i piece).isInfix
    · exact hnonempty (List.self_eq_append_left.1 hwhole)

/-- Cutting undoes joining. -/
theorem splitAt_intercalate {sep : List Char} (hsep : sep ≠ []) (hborder : Unbordered sep)
    {pieces : List (List Char)} (hpieces : pieces ≠ [])
    (habsent : ∀ piece ∈ pieces, ¬ sep <:+: piece) :
    splitAt sep (sep.intercalate pieces) = pieces := by
  induction pieces with
  | nil => exact absurd rfl hpieces
  | cons piece rest ih =>
      obtain ⟨hpiece, hrest⟩ := List.forall_mem_cons.1 habsent
      cases rest with
      | nil => simpa using splitAt_of_absent hpiece
      | cons next later =>
          rw [List.intercalate_cons_cons, List.append_assoc]
          have hcut := cut?_eq_some.2 ⟨rfl, fun i hi =>
            not_occursAt_seam hborder hpiece (sep.intercalate (next :: later)) hi⟩
          rw [splitAt_of_cut hsep hcut, ih (by simp) hrest]

/-! ## Words -/

theorem wordsFrom_append {word : List Char} (hword : ∀ c ∈ word, isBlank c = false)
    (run rest : List Char) :
    wordsFrom run (word ++ rest) = wordsFrom (word.reverse ++ run) rest := by
  induction word generalizing run with
  | nil => rfl
  | cons c word ih =>
      obtain ⟨hc, hword⟩ := List.forall_mem_cons.1 hword
      simp [wordsFrom, hc, ih hword]

theorem words_blank {c : Char} (hc : isBlank c = true) (rest : List Char) :
    words (c :: rest) = words rest := by
  simp [words, wordsFrom, hc]

/-- A stretch without blanks that a blank or nothing follows is the first word. -/
theorem words_append {word rest : List Char} (hne : word ≠ [])
    (hword : ∀ c ∈ word, isBlank c = false) (hrest : ∀ c ∈ rest.head?, isBlank c = true) :
    words (word ++ rest) = word :: words rest := by
  unfold words
  rw [wordsFrom_append hword]
  cases rest with
  | nil => simp [wordsFrom, hne]
  | cons c rest =>
      have hc : isBlank c = true := hrest c rfl
      simp [wordsFrom, hc, hne]

/-- A text is empty, begins with a blank, or begins with a word that a blank or nothing
follows. -/
theorem words_induction {P : List Char → List (List Char) → Prop} (empty : P [] [])
    (blank : ∀ c rest, isBlank c = true → P rest (words rest) → P (c :: rest) (words rest))
    (word : ∀ word rest, word ≠ [] → (∀ c ∈ word, isBlank c = false) →
      (∀ c ∈ rest.head?, isBlank c = true) → P rest (words rest) →
      P (word ++ rest) (word :: words rest))
    (s : List Char) : P s (words s) := by
  induction hn : s.length using Nat.strong_induction_on generalizing s with
  | _ n ih =>
      cases s with
      | nil => exact empty
      | cons c s =>
          cases hc : isBlank c with
          | true =>
              rw [words_blank hc]
              exact blank c s hc (ih s.length (by simp at hn; omega) s rfl)
          | false =>
              have hword : ∀ d ∈ c :: s.takeWhile (fun d => !isBlank d), isBlank d = false := by
                refine List.forall_mem_cons.2 ⟨hc, fun d hd => ?_⟩
                simpa using List.mem_takeWhile_imp hd
              have hrest : ∀ d ∈ (s.dropWhile fun d => !isBlank d).head?, isBlank d = true := by
                intro d hd
                have hstop := List.head?_dropWhile_not (fun d => !isBlank d) s
                rw [Option.mem_def.1 hd] at hstop
                simpa using hstop
              have hlength := List.length_dropWhile_le (fun d => !isBlank d) s
              have hbehind := ih _ (by simp at hn; omega) (s.dropWhile fun d => !isBlank d) rfl
              have hall := word _ _ (by simp) hword hrest hbehind
              rw [← words_append (by simp) hword hrest] at hall
              simpa [List.takeWhile_append_dropWhile] using hall

/-- A word is not empty and holds no blank. -/
theorem mem_words {s : List Char} :
    ∀ word ∈ words s, word ≠ [] ∧ ∀ c ∈ word, isBlank c = false := by
  induction s using words_induction with
  | empty => simp
  | blank c rest _ ih => exact ih
  | word word rest hne hword _ ih => exact List.forall_mem_cons.2 ⟨⟨hne, hword⟩, ih⟩

/-- Words that are put together with a space between them are found again. -/
theorem words_intercalate {ws : List (List Char)}
    (h : ∀ word ∈ ws, word ≠ [] ∧ ∀ c ∈ word, isBlank c = false) :
    words ([' '].intercalate ws) = ws := by
  induction ws with
  | nil => rfl
  | cons word rest ih =>
      obtain ⟨⟨hne, hword⟩, hrest⟩ := List.forall_mem_cons.1 h
      cases rest with
      | nil =>
          have hlast := @words_append word [] hne hword (by simp)
          simpa [words, wordsFrom] using hlast
      | cons next later =>
          have hspace : isBlank ' ' = true := by decide
          rw [List.intercalate_cons_cons, List.append_assoc, List.singleton_append,
            words_append hne hword (by simp [hspace]), words_blank hspace, ih hrest]

/-- At place `i` of `s` stands a character that is no blank. -/
def SolidAt (s : List Char) (i : Nat) : Prop := ∃ c, s[i]? = some c ∧ isBlank c = false

theorem solidAt_append (front s : List Char) (i : Nat) :
    SolidAt (front ++ s) (front.length + i) ↔ SolidAt s i := by
  rw [SolidAt, SolidAt, List.getElem?_append_right (by omega), Nat.add_sub_cancel_left]

theorem solidAt_front {word : List Char} (hword : ∀ c ∈ word, isBlank c = false)
    (rest : List Char) {i : Nat} (hi : i < word.length) : SolidAt (word ++ rest) i := by
  refine ⟨word.get ⟨i, hi⟩, ?_, hword _ (List.get_mem ..)⟩
  rw [List.getElem?_append_left hi, List.getElem?_eq_getElem hi]
  rfl

theorem not_solidAt_zero {s : List Char} (h : ∀ c ∈ s.head?, isBlank c = true) :
    ¬ SolidAt s 0 := by
  rintro ⟨c, hc, hsolid⟩
  rw [← List.head?_eq_getElem?] at hc
  rw [h c hc] at hsolid
  cases hsolid

/-- From `i` up to `j` there are characters that are no blanks, and this cannot be said of
more of the text. -/
structure IsRun (s : List Char) (i j : Nat) : Prop where
  nonempty : i < j
  solid : ∀ k, i ≤ k → k < j → SolidAt s k
  left : ∀ k, k + 1 = i → ¬ SolidAt s k
  right : ¬ SolidAt s j

/-- Behind a seam that no run crosses, the runs are those of the rest. -/
theorem isRun_append {front s : List Char}
    (hseam : ¬ SolidAt s 0 ∨ ∀ k, k + 1 = front.length → ¬ SolidAt (front ++ s) k) (i j : Nat) :
    IsRun (front ++ s) (front.length + i) (front.length + j) ↔ IsRun s i j := by
  constructor
  · intro h
    refine ⟨by have := h.nonempty; omega, fun k hi hj => ?_, fun k hk => ?_, ?_⟩
    · exact (solidAt_append front s k).1 (h.solid _ (by omega) (by omega))
    · exact fun hsolid => h.left (front.length + k) (by omega) ((solidAt_append front s k).2 hsolid)
    · exact fun hsolid => h.right ((solidAt_append front s j).2 hsolid)
  · intro h
    refine ⟨by have := h.nonempty; omega, fun k hi hj => ?_, fun k hk => ?_, ?_⟩
    · obtain ⟨k, rfl⟩ := Nat.exists_eq_add_of_le (show front.length ≤ k by omega)
      exact (solidAt_append front s k).2 (h.solid k (by omega) (by omega))
    · cases i with
      | zero => exact hseam.elim (absurd (h.solid 0 le_rfl h.nonempty)) fun hfront => hfront k hk
      | succ i =>
          obtain rfl : k = front.length + i := by omega
          rw [solidAt_append]
          exact h.left i rfl
    · rw [solidAt_append]
      exact h.right

/-- The list holds the runs of a text and nothing else, in order. -/
structure Runs (s : List Char) (runs : List (Nat × Nat)) : Prop where
  mem_iff : ∀ run : Nat × Nat, run ∈ runs ↔ IsRun s run.1 run.2
  ordered : runs.Pairwise fun run later => run.2 < later.1

/-- The characters from the first place up to the second. -/
def slice (s : List Char) (run : Nat × Nat) : List Char := (s.drop run.1).take (run.2 - run.1)

/-- Where a run is once `front` is put before the text. -/
def shift (front : List Char) (run : Nat × Nat) : Nat × Nat :=
  (front.length + run.1, front.length + run.2)

theorem slice_shift (front s : List Char) (run : Nat × Nat) :
    slice (front ++ s) (shift front run) = slice s run := by
  have hwidth : front.length + run.2 - (front.length + run.1) = run.2 - run.1 := by omega
  simp [slice, shift, hwidth]

theorem mem_map_shift {front s : List Char} {runs : List (Nat × Nat)} (h : Runs s runs)
    (hseam : ¬ SolidAt s 0 ∨ ∀ k, k + 1 = front.length → ¬ SolidAt (front ++ s) k)
    (run : Nat × Nat) :
    run ∈ runs.map (shift front) ↔ front.length ≤ run.1 ∧ IsRun (front ++ s) run.1 run.2 := by
  constructor
  · intro hmem
    obtain ⟨inner, hinner, rfl⟩ := List.mem_map.1 hmem
    exact ⟨Nat.le_add_right .., (isRun_append hseam ..).2 ((h.mem_iff inner).1 hinner)⟩
  · rintro ⟨hle, hrun⟩
    have hlt := hrun.nonempty
    obtain ⟨i, hi⟩ := Nat.exists_eq_add_of_le hle
    obtain ⟨j, hj⟩ := Nat.exists_eq_add_of_le (show front.length ≤ run.2 by omega)
    rw [hi, hj, isRun_append hseam] at hrun
    exact List.mem_map.2 ⟨(i, j), (h.mem_iff (i, j)).2 hrun, Prod.ext hi.symm hj.symm⟩

theorem pairwise_map_shift {front s : List Char} {runs : List (Nat × Nat)} (h : Runs s runs) :
    (runs.map (shift front)).Pairwise fun run later => run.2 < later.1 :=
  List.pairwise_map.2 (h.ordered.imp fun hlt => by simpa [shift] using hlt)

/-- A blank in front moves the runs. -/
theorem Runs.blank {c : Char} {s : List Char} (hc : isBlank c = true) {runs : List (Nat × Nat)}
    (h : Runs s runs) : Runs (c :: s) (runs.map (shift [c])) where
  mem_iff run := by
    have hfirst : ¬ SolidAt ([c] ++ s) 0 := not_solidAt_zero (by simp [hc])
    have hseam : ∀ k, k + 1 = [c].length → ¬ SolidAt ([c] ++ s) k := by
      rintro k hk
      obtain rfl : k = 0 := by simpa using hk
      exact hfirst
    rw [mem_map_shift h (.inr hseam), List.singleton_append, and_iff_right_iff_imp]
    intro hrun
    refine Nat.one_le_iff_ne_zero.2 fun hzero => hfirst (hrun.solid 0 hzero.le ?_)
    have := hrun.nonempty
    omega
  ordered := pairwise_map_shift h

/-- A word in front is the first run. -/
theorem Runs.word {word s : List Char} (hne : word ≠ [])
    (hword : ∀ c ∈ word, isBlank c = false) (hs : ∀ c ∈ s.head?, isBlank c = true)
    {runs : List (Nat × Nat)} (h : Runs s runs) :
    Runs (word ++ s) ((0, word.length) :: runs.map (shift word)) where
  mem_iff run := by
    have hzero := not_solidAt_zero hs
    have hend : ¬ SolidAt (word ++ s) word.length := mt (solidAt_append word s 0).1 hzero
    have hpos : 0 < word.length := List.length_pos_iff.2 hne
    rw [List.mem_cons, mem_map_shift h (.inl hzero)]
    constructor
    · rintro (rfl | ⟨-, hrun⟩)
      · exact ⟨hpos, fun k _ hk => solidAt_front hword s hk, by simp, hend⟩
      · exact hrun
    · intro hrun
      rcases Nat.lt_or_ge run.1 word.length with hlt | hge
      · -- A run that begins inside the word is the word: it reaches to both its ends.
        refine .inl (Prod.ext ?_ ?_)
        · refine Nat.eq_zero_of_not_pos fun hstart => ?_
          exact hrun.left (run.1 - 1) (by omega) (solidAt_front hword s (by omega))
        · rcases Nat.lt_trichotomy run.2 word.length with hshort | heq | hlong
          · exact absurd (solidAt_front hword s hshort) hrun.right
          · exact heq
          · exact absurd (hrun.solid _ hlt.le hlong) hend
      · exact .inr ⟨hge, hrun⟩
  ordered := by
    refine List.pairwise_cons.2 ⟨fun run hrun => ?_, pairwise_map_shift h⟩
    obtain ⟨inner, hinner, rfl⟩ := List.mem_map.1 hrun
    -- The rest does not begin with a run.
    have hinside := (h.mem_iff inner).1 hinner
    have hstart : inner.1 ≠ 0 := fun hstart =>
      not_solidAt_zero hs (hstart ▸ hinside.solid inner.1 le_rfl hinside.nonempty)
    simp only [shift]
    omega

/-- The words of a text are its runs. -/
theorem exists_runs (s : List Char) : ∃ runs, Runs s runs ∧ words s = runs.map (slice s) := by
  have hmoved : ∀ front s runs, (List.map (shift front) runs).map (slice (front ++ s)) =
      runs.map (slice s) := by
    intro front s runs
    rw [List.map_map]
    exact List.map_congr_left fun run _ => slice_shift front s run
  induction s using words_induction with
  | empty =>
      refine ⟨[], ⟨fun run => ⟨by simp, fun hrun => ?_⟩, .nil⟩, rfl⟩
      exact absurd (hrun.solid _ le_rfl hrun.nonempty) (by simp [SolidAt])
  | blank c rest hc ih =>
      obtain ⟨runs, hruns, hwords⟩ := ih
      exact ⟨_, hruns.blank hc, by rw [← List.singleton_append, hmoved, hwords]⟩
  | word word rest hne hword hrest ih =>
      obtain ⟨runs, hruns, hwords⟩ := ih
      refine ⟨_, hruns.word hne hword hrest, ?_⟩
      rw [List.map_cons, hmoved, hwords]
      simp [slice]

end TextShell.Text

namespace TextShell.Value

/-! ## The pieces of a value -/

theorem split_none (v : Value) : (v.split none).map String.toList = Text.words v.text.toList := by
  simp [split, Function.comp_def]

theorem split_some (v : Value) {sep : String} (hsep : sep ≠ "") :
    (v.split (some sep)).map String.toList = Text.splitAt sep.toList v.text.toList := by
  simp [split, hsep, Function.comp_def]

/-- What a piece has to be, for each way to split. -/
def IsPiece (separator : Option String) (piece : String) : Prop :=
  match separator with
  | none => piece.toList ≠ [] ∧ ∀ c ∈ piece.toList, Text.isBlank c = false
  | some sep =>
    if sep = "" then ∃ c, piece = String.singleton c else ¬ sep.toList <:+: piece.toList

theorem isPiece_character {piece : String} :
    IsPiece (some "") piece ↔ ∃ c, piece = String.singleton c := by
  simp [IsPiece]

theorem isPiece_between {sep piece : String} (hsep : sep ≠ "") :
    IsPiece (some sep) piece ↔ ¬ sep.toList <:+: piece.toList := by
  simp [IsPiece, hsep]

theorem isPiece_of_mem_split {v : Value} {separator : Option String} :
    ∀ piece ∈ v.split separator, IsPiece separator piece := by
  intro piece hpiece
  have hchars := List.mem_map_of_mem (f := String.toList) hpiece
  cases separator with
  | none =>
      rw [split_none] at hchars
      exact Text.mem_words _ hchars
  | some sep =>
      by_cases hsep : sep = ""
      · subst hsep
        obtain ⟨c, -, rfl⟩ := List.mem_map.1 hpiece
        exact isPiece_character.2 ⟨c, rfl⟩
      · rw [split_some v hsep] at hchars
        rw [isPiece_between hsep]
        exact Text.not_infix_of_mem_splitAt (by simpa using hsep) _ _ hchars

theorem toList_intercalate_singleton (cs : List Char) :
    ("".intercalate (cs.map String.singleton)).toList = cs := by
  induction cs with
  | nil => rfl
  | cons c cs ih =>
      cases cs with
      | nil => simp
      | cons d cs => simpa using ih

/-- Pieces that are put together are found again, unless the separator overlaps itself.  A
text always has a piece, if it is split at a separator that is not empty. -/
theorem split_intercalate {separator : Option String}
    (hborder : ∀ sep ∈ separator, Text.Unbordered sep.toList) {pieces : List String}
    (hpieces : ∀ piece ∈ pieces, IsPiece separator piece)
    (hne : ∀ sep ∈ separator, sep ≠ "" → pieces ≠ []) (status : Int) :
    (⟨(separator.getD " ").intercalate pieces, status⟩ : Value).split separator = pieces := by
  have hchars {xs : List String} (h : xs.map String.toList = pieces.map String.toList) :
      xs = pieces := (List.map_inj_right fun _ _ => String.toList_inj.1).1 h
  cases separator with
  | none =>
      refine hchars ?_
      rw [split_none, String.toList_intercalate]
      exact Text.words_intercalate (List.forall_mem_map.2 hpieces)
  | some sep =>
      by_cases hsep : sep = ""
      · subst hsep
        obtain ⟨cs, rfl⟩ : ∃ cs : List Char, cs.map String.singleton = pieces := by
          have hrange : ∀ piece ∈ pieces, piece ∈ Set.range String.singleton := by
            intro piece hpiece
            obtain ⟨c, rfl⟩ := isPiece_character.1 (hpieces piece hpiece)
            exact ⟨c, rfl⟩
          rwa [← Set.mem_range, Set.range_list_map]
        exact congrArg (List.map String.singleton) (toList_intercalate_singleton cs)
      · have habsent : ∀ piece ∈ pieces, ¬ sep.toList <:+: piece.toList := fun piece hpiece =>
          (isPiece_between hsep).1 (hpieces piece hpiece)
        refine hchars ?_
        rw [split_some _ hsep, String.toList_intercalate]
        refine Text.splitAt_intercalate (by simpa using hsep) (hborder sep rfl) ?_
          (List.forall_mem_map.2 habsent)
        simpa using hne sep rfl hsep

/-- Splitting loses nothing.  At a separator that is not empty, the pieces are what the
leftmost occurrences that do not overlap leave of the text: joined with the separator they
are the text again, and none of them holds the separator.  An empty separator gives the
characters.  Without a separator the pieces are the maximal runs of characters that are no
blanks, and splitting these joined by a space gives them again. -/
theorem split_loses_nothing (v : Value) :
    (∀ sep : String, sep ≠ "" →
      (v.split (some sep)).length ≤ v.text.length + 1 ∧
      sep.intercalate (v.split (some sep)) = v.text ∧
      (∀ piece ∈ v.split (some sep), ¬ sep.toList <:+: piece.toList) ∧
      ∃ cuts, Text.LeftmostCuts sep.toList v.text.toList cuts ∧
        (v.split (some sep)).map String.toList =
          Text.between sep.length v.text.toList 0 cuts) ∧
    v.split (some "") = v.text.toList.map String.singleton ∧
    (∃ runs, Text.Runs v.text.toList runs ∧
      (v.split none).map String.toList = runs.map (Text.slice v.text.toList)) ∧
    (Value.truthy (" ".intercalate (v.split none))).split none = v.split none := by
  refine ⟨fun sep hsep => ?_, rfl, ?_, ?_⟩
  · have hchars : sep.toList ≠ [] := by simpa using hsep
    refine ⟨?_, ?_, fun piece hpiece => ?_, ?_⟩
    · have hlength := Text.length_splitAt_le hchars v.text.toList
      rw [← v.split_some hsep, List.length_map, String.length_toList] at hlength
      exact hlength
    · rw [← String.toList_inj, String.toList_intercalate, v.split_some hsep]
      exact Text.intercalate_splitAt hchars _
    · exact (isPiece_between hsep).1 (isPiece_of_mem_split piece hpiece)
    · obtain ⟨cuts, hcuts, hpieces⟩ := Text.exists_leftmostCuts hchars v.text.toList
      exact ⟨cuts, hcuts, (v.split_some hsep).trans hpieces⟩
  · obtain ⟨runs, hruns, hwords⟩ := Text.exists_runs v.text.toList
    exact ⟨runs, hruns, v.split_none.trans hwords⟩
  · exact split_intercalate (by simp) isPiece_of_mem_split (by simp) 0

/-- A separator that overlaps itself, in a text where it occurs at two places that overlap. -/
theorem split_loses_nothing_overlap :
    "aa" ≠ "" ∧ "aa".intercalate ((⟨"aaaba", 0⟩ : Value).split (some "aa")) = "aaaba" ∧
      ∃ cuts, Text.LeftmostCuts "aa".toList "aaaba".toList cuts ∧
        ((⟨"aaaba", 0⟩ : Value).split (some "aa")).map String.toList =
          Text.between 2 "aaaba".toList 0 cuts := by
  obtain ⟨-, hjoined, -, hcuts⟩ := (split_loses_nothing ⟨"aaaba", 0⟩).1 "aa" (by decide)
  exact ⟨by decide, hjoined, hcuts⟩

end TextShell.Value
