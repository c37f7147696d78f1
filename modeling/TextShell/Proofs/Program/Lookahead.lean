import TextShell.Proofs.Program.Placement
import TextShell.Proofs.Program.Printed

/-!
# How far terminals look ahead

What a terminal takes is decided by the text it takes and the first character behind
it.  Each terminal is characterized by what it takes, and the ones whose end depends on
what follows are shown to take the same in front of any text that starts alike.

The one exception is the end of a statement.  A comment that runs to the end of the
source ends its statement at its last `;`, so that a line end far behind a `;` decides
whether the statement ends there.  A text is `Tame` if no comment in it is cut in this way.

## Main results

* `takes_char_iff`, `takes_keyword_iff`, `takes_space_iff`, `reads_bareString_iff` and
  so on — what terminals take.
* `gapLength_congr`, `quotedLength?_congr`, `bareLength_append` — what decides where a
  gap or a string ends.
* `exists_isEnd` — in a tame text, the end of a statement does not depend on what
  follows.
-/

namespace TextShell

theorem front_congr {P : Char → Prop} {y z : List Char} (h : y.head? = z.head?) :
    Front P y ↔ Front P z := by
  rw [Front, Front, h]

theorem atWordEnd_congr {y z : List Char} (h : y.head? = z.head?) :
    atWordEnd y = atWordEnd z := by
  rw [Bool.eq_iff_iff, atWordEnd_iff, atWordEnd_iff, front_congr h]

theorem append_head? {w : List Char} (hw : w ≠ []) (y z : List Char) :
    (w ++ y).head? = (w ++ z).head? := by
  cases w with
  | nil => exact absurd rfl hw
  | cons c w => rfl

namespace Parser

/-! ## Terminals -/

section Terminals

variable {w r y z : List Char}

theorem takes_take_iff {length? : List Char → Option Nat}
    (hle : ∀ s n, length? s = some n → n ≤ s.length) :
    Takes (take length?) w r ↔ length? (w ++ r) = some w.length := by
  refine ⟨fun h => ?_, Yields.take⟩
  obtain ⟨n, hn, hw⟩ := takes_take h
  have hlen := congrArg List.length hw
  have := hle _ n hn
  rw [List.length_take, Nat.min_eq_left this] at hlen
  rw [hn, hlen]

theorem takes_char_iff {c : Char} : Takes (char c) w r ↔ w = [c] := by
  constructor
  · intro h
    obtain ⟨n, hn, hw⟩ := takes_take h
    split at hn
    · next hhead =>
      obtain rfl := Option.some.inj hn
      cases htext : w ++ r with
      | nil => simp [htext] at hhead
      | cons d s =>
          rw [htext, List.head?_cons, Option.some.injEq] at hhead
          rw [hw, htext, hhead]
          rfl
    · cases hn
  · rintro rfl
    exact takes_char c r

theorem takes_keyword_iff {word : String} :
    Takes (keyword word) w r ↔ w = word.toList ∧ atWordEnd r = true := by
  constructor
  · intro h
    obtain ⟨n, hn, hw⟩ := takes_take h
    split at hn
    · next hstart =>
      obtain rfl := Option.some.inj hn
      obtain ⟨word', hmem, r', htext, hend⟩ := startsWithWord_iff.1 hstart
      obtain rfl : word' = word := by simpa using hmem
      have hword : w = word'.toList := by
        rw [hw, htext, ← String.length_toList, List.take_left]
      rw [hword] at htext
      exact ⟨hword, List.append_cancel_left htext ▸ hend⟩
    · cases hn
  · rintro ⟨rfl, hr⟩
    exact takes_keyword hr

/-- A blank within a line. -/
def isSpace (c : Char) : Bool := c == ' ' || c == '\t'

theorem isSpace_cases {c : Char} (h : isSpace c = true) : c = ' ' ∨ c = '\t' := by
  simpa [isSpace] using h

theorem takeWhile_length_iff {P : Char → Bool} :
    ((w ++ r).takeWhile P).length = w.length ↔
      (∀ c ∈ w, P c = true) ∧ Front (fun c => P c = false) r := by
  constructor
  · intro h
    have htake := take_length_takeWhile P (w ++ r)
    have hdrop := drop_length_takeWhile P (w ++ r)
    rw [h, List.take_left] at htake
    rw [h, List.drop_left] at hdrop
    refine ⟨fun c hc => List.mem_takeWhile_imp (htake ▸ hc), fun c hc => ?_⟩
    have hhead := List.head?_dropWhile_not P (w ++ r)
    rw [← hdrop, Option.mem_def.1 hc] at hhead
    simpa using hhead
  · rintro ⟨hw, hr⟩
    rw [takeWhile_append_of_front hw hr]

theorem takes_space?_iff :
    Takes space? w r ↔
      (∀ c ∈ w, isSpace c = true) ∧ Front (fun c => isSpace c = false) r := by
  refine Iff.trans (takes_take_iff fun s n h => ?_) ?_
  · obtain rfl := Option.some.inj h
    exact (List.takeWhile_prefix _).length_le
  · rw [Option.some.injEq]
    exact takeWhile_length_iff

theorem takes_space_iff :
    Takes space w r ↔
      w ≠ [] ∧ (∀ c ∈ w, isSpace c = true) ∧ Front (fun c => isSpace c = false) r := by
  refine Iff.trans (takes_take_iff fun s n h => ?_) ?_
  · dsimp only at h
    split at h
    · cases h
    · obtain rfl := Option.some.inj h
      exact (List.takeWhile_prefix _).length_le
  · rw [← takeWhile_length_iff, ← List.length_pos_iff]
    change (if ((w ++ r).takeWhile isSpace).length = 0 then none
      else some ((w ++ r).takeWhile isSpace).length) = some w.length ↔ _
    generalize ((w ++ r).takeWhile isSpace).length = n
    split
    · simp
      omega
    · rw [Option.some.injEq]
      omega

theorem takes_space_congr (h : y.head? = z.head?) : Takes space w y ↔ Takes space w z := by
  rw [takes_space_iff, takes_space_iff, front_congr h]

theorem gapLength_le (extra : Char → Bool) (inComment : Bool) (s : List Char) :
    gapLength extra inComment s ≤ s.length := by
  induction s generalizing inComment with
  | nil => exact Nat.le_refl _
  | cons c s ih =>
      have := ih true
      have := ih false
      rw [gapLength, List.length_cons]
      split_ifs <;> omega

/-- What ends a gap is its first character. -/
theorem gapLength_congr {extra : Char → Bool} {inComment : Bool} (h : y.head? = z.head?)
    (hy : gapLength extra inComment (w ++ y) = w.length) :
    gapLength extra inComment (w ++ z) = w.length := by
  induction w generalizing inComment with
  | nil =>
      cases y with
      | nil =>
          obtain rfl : z = [] := by simpa using h.symm
          rfl
      | cons c y =>
          cases z with
          | nil => simp at h
          | cons d z =>
              obtain rfl : c = d := by simpa using h
              rw [List.nil_append, gapLength, List.length_nil] at hy ⊢
              split_ifs at hy ⊢ <;> omega
  | cons c w ih =>
      rw [List.cons_append, gapLength, List.length_cons] at hy ⊢
      split_ifs at hy ⊢ <;> first | omega | (rw [ih (by omega)]; omega)

theorem takes_blank_iff :
    Takes blank w r ↔ gapLength (fun _ => false) false (w ++ r) = w.length := by
  refine Iff.trans (takes_take_iff fun s n h => ?_) (by rw [Option.some.injEq])
  obtain rfl := Option.some.inj h
  exact gapLength_le ..

theorem takes_gap_iff : Takes gap w r ↔ gapLength (· == ';') false (w ++ r) = w.length := by
  refine Iff.trans (takes_take_iff fun s n h => ?_) (by rw [Option.some.injEq])
  obtain rfl := Option.some.inj h
  exact gapLength_le ..

theorem takes_blank_congr (h : y.head? = z.head?) (hy : Takes blank w y) :
    Takes blank w z :=
  takes_blank_iff.2 (gapLength_congr h (takes_blank_iff.1 hy))

theorem takes_gap_congr (h : y.head? = z.head?) (hy : Takes gap w y) : Takes gap w z :=
  takes_gap_iff.2 (gapLength_congr h (takes_gap_iff.1 hy))

/-- No gap starts behind a gap. -/
theorem gapLength_stop {extra : Char → Bool} {inComment : Bool}
    (h : gapLength extra inComment (w ++ r) = w.length) : gapLength extra false r = 0 := by
  induction w generalizing inComment with
  | nil =>
      cases inComment with
      | false => exact h
      | true =>
          cases r with
          | nil => rfl
          | cons c r =>
              rw [List.nil_append, gapLength, if_pos rfl] at h
              split_ifs at h <;> simp at h
  | cons c w ih =>
      have hnext {b : Bool} (hb : 1 + gapLength extra b (w ++ r) = w.length + 1) :
          gapLength extra false r = 0 :=
        ih (by omega : gapLength extra b (w ++ r) = w.length)
      rw [List.cons_append, gapLength, List.length_cons] at h
      split_ifs at h <;> exact hnext h

theorem takes_gap_stop {g : List Char} (h : Takes gap w (g ++ r)) (hg : Takes gap g r) :
    g = [] := by
  have hstop := gapLength_stop (takes_gap_iff.1 h)
  rw [takes_gap_iff.1 hg] at hstop
  exact List.length_eq_zero_iff.1 hstop

/-- What a gap starts with. -/
theorem gapLength_front {extra : Char → Bool} {c : Char} {n : Nat}
    (h : gapLength extra false (c :: r) = n + 1) :
    Text.isGap c = true ∨ extra c = true ∨ c = '#' := by
  rw [gapLength, if_neg (by simp)] at h
  split_ifs at h with hgap hremark
  · rcases Bool.or_eq_true_iff.1 hgap with hgap | hextra
    · exact .inl hgap
    · exact .inr (.inl hextra)
  · exact .inr (.inr hremark)

theorem takes_gap_front {c : Char} (h : Takes gap (c :: w) r) :
    Text.isGap c = true ∨ c = ';' ∨ c = '#' := by
  simpa using gapLength_front (takes_gap_iff.1 h)

theorem takes_blank_front {c : Char} (h : Takes blank (c :: w) r) :
    Text.isGap c = true ∨ c = '#' := by
  simpa using gapLength_front (takes_blank_iff.1 h)

theorem takes_gap_cons {c : Char} (hc : Text.isGap c = true) :
    Takes gap (c :: w) r ↔ Takes gap w r := by
  rw [takes_gap_iff, takes_gap_iff, List.cons_append, gapLength, List.length_cons,
    if_neg (by simp), if_pos (by simp [hc])]
  omega

theorem takes_blank_cons {c : Char} (hc : Text.isGap c = true) :
    Takes blank (c :: w) r ↔ Takes blank w r := by
  rw [takes_blank_iff, takes_blank_iff, List.cons_append, gapLength, List.length_cons,
    if_neg (by simp), if_pos (by simp [hc])]
  omega

theorem takes_name_iff : Takes (take nameLength?) w r ↔ IsName w ∧ NameEnd r := by
  rw [takes_take_iff fun s n h => (nameLength?_eq_some h).1]
  refine ⟨fun h => ?_, fun h => nameLength?_append h.1 h.2⟩
  obtain ⟨-, hw, hr⟩ := nameLength?_eq_some h
  rw [List.take_left] at hw
  rw [List.drop_left] at hr
  exact ⟨hw, hr⟩

end Terminals

/-! ## Ends of statements -/

section Separators

variable {w r s y : List Char}

/-- One end of a statement that is complete: a line end or `;`, or a comment with its
line end. -/
inductive IsEnd : List Char → Prop
  | mark {sp : List Char} {c : Char} (hsp : ∀ d ∈ sp, isSpace d = true)
      (hc : c = '\n' ∨ c = ';') : IsEnd (sp ++ [c])
  | comment {sp cs : List Char} (hsp : ∀ d ∈ sp, isSpace d = true) (hcs : '\n' ∉ cs) :
      IsEnd (sp ++ '#' :: (cs ++ ['\n']))

theorem separatorLength?_append {sp : List Char} (hsp : ∀ d ∈ sp, isSpace d = true)
    (hr : Front (fun c => isSpace c = false) r) :
    separatorLength? (sp ++ r) = (separatorLength? r).map (sp.length + ·) := by
  have htake (s : List Char) : s.takeWhile (fun c => c == ' ' || c == '\t') =
      s.takeWhile isSpace := rfl
  have hnone : r.takeWhile isSpace = [] := takeWhile_append_of_front (w := []) (by simp) hr
  unfold separatorLength?
  simp only [htake, takeWhile_append_of_front hsp hr, List.drop_left, hnone, List.length_nil,
    List.drop_zero]
  split
  · simp
  · simp
  · split
    · simp [Nat.add_assoc]
    · split <;> simp
  · rfl

theorem separatorLength?_comment (s : List Char) :
    separatorLength? ('#' :: s) =
      if (s.takeWhile (· != '\n')).length < s.length then
        some ((s.takeWhile (· != '\n')).length + 2)
      else
        let before := ('#' :: s).reverse.dropWhile (· != ';')
        if before.isEmpty then none else some before.length := by
  change (if ('#' :: s.takeWhile (· != '\n')).length < ('#' :: s).length then
      some (0 + ('#' :: s.takeWhile (· != '\n')).length + 1)
    else
      let before := ('#' :: s.takeWhile (· != '\n')).reverse.dropWhile (· != ';')
      if before.isEmpty then none else some (0 + before.length)) = _
  by_cases hline : (s.takeWhile (· != '\n')).length < s.length
  · rw [if_pos hline, if_pos (by simpa using hline)]
    simp
  · have hall : s.takeWhile (· != '\n') = s :=
      (List.takeWhile_prefix _).eq_of_length_le (by omega)
    rw [if_neg hline, if_neg (by simpa using hline), hall]
    simp only [Nat.zero_add]

theorem separatorLength?_of_isEnd (h : IsEnd w) (r : List Char) :
    separatorLength? (w ++ r) = some w.length := by
  cases h with
  | @mark sp c hsp hc =>
      have hfront : Front (fun c => isSpace c = false) ([c] ++ r) :=
        (front_cons _ c _).2 (by rcases hc with rfl | rfl <;> rfl)
      rw [List.append_assoc, separatorLength?_append hsp hfront]
      rcases hc with rfl | rfl <;> simp [separatorLength?]
  | @comment sp cs hsp hcs =>
      have hfront : Front (fun c => isSpace c = false) ('#' :: (cs ++ ['\n']) ++ r) :=
        (front_cons _ '#' _).2 rfl
      have hcomment : (cs ++ '\n' :: r).takeWhile (· != '\n') = cs :=
        takeWhile_append_of_front
          (fun c hc => by simpa using fun h : c = '\n' => hcs (h ▸ hc))
          ((front_cons _ '\n' _).2 rfl)
      rw [List.append_assoc, separatorLength?_append hsp hfront, List.cons_append,
        List.append_assoc, List.singleton_append, separatorLength?_comment, hcomment, if_pos (by simp)]
      simp

theorem separatorLength?_comment_eq_some {n : Nat} (h : separatorLength? ('#' :: s) = some n) :
    ∃ w r, '#' :: s = w ++ r ∧ n = w.length ∧
      ((∃ cs, w = '#' :: (cs ++ ['\n']) ∧ '\n' ∉ cs) ∨
        ∃ b, w = '#' :: b ∧ ';' ∈ b ∧ '\n' ∉ b ++ r) := by
  rw [separatorLength?_comment] at h
  have hcs : '\n' ∉ s.takeWhile (· != '\n') := fun hmem => by
    simpa using List.mem_takeWhile_imp hmem
  split at h
  · next hline =>
    obtain rfl := Option.some.inj h
    obtain ⟨r, hr⟩ : ∃ r, s.dropWhile (· != '\n') = '\n' :: r := by
      cases hdrop : s.dropWhile (· != '\n') with
      | nil =>
          have hsplit := congrArg List.length
            (List.takeWhile_append_dropWhile (p := (· != '\n')) (l := s))
          rw [hdrop, List.append_nil] at hsplit
          omega
      | cons c r =>
          have hhead := List.head?_dropWhile_not (· != '\n') s
          rw [hdrop] at hhead
          exact ⟨r, by simpa using hhead⟩
    refine ⟨'#' :: (s.takeWhile (· != '\n') ++ ['\n']), r, ?_, by simp, .inl ⟨_, rfl, hcs⟩⟩
    rw [List.cons_append, List.append_assoc, List.singleton_append, ← hr,
      List.takeWhile_append_dropWhile]
  · next hline =>
    -- no line end follows, and the comment is cut behind its last `;`
    have hall : s.takeWhile (· != '\n') = s :=
      (List.takeWhile_prefix _).eq_of_length_le (by omega)
    rw [hall] at hcs
    dsimp only at h
    split at h
    · cases h
    · next hne =>
      obtain rfl := Option.some.inj h
      have hsplit := congrArg List.reverse
        (List.takeWhile_append_dropWhile (p := (· != ';')) (l := ('#' :: s).reverse))
      rw [List.reverse_append, List.reverse_reverse] at hsplit
      cases hbefore : ('#' :: s).reverse.dropWhile (· != ';') with
      | nil =>
          rw [hbefore] at hne
          exact absurd rfl hne
      | cons c before =>
          have hhead := List.head?_dropWhile_not (· != ';') ('#' :: s).reverse
          rw [hbefore] at hhead hsplit
          obtain rfl : c = ';' := by simpa using hhead
          cases hw : (';' :: before).reverse with
          | nil => simp at hw
          | cons d b =>
              rw [hw, List.cons_append, List.cons.injEq] at hsplit
              obtain ⟨rfl, htext⟩ := hsplit
              have hmem : ';' ∈ '#' :: b := by
                rw [← hw]
                simp
              refine ⟨'#' :: b, _, by rw [List.cons_append, htext], ?_, .inr ⟨b, rfl, ?_, ?_⟩⟩
              · rw [← hw, List.length_reverse]
              · simpa using hmem
              · rwa [htext]

/-- An end of a statement is complete, unless it is the part up to the last `;` of a
comment that no line end follows. -/
theorem separatorLength?_eq_some {n : Nat} (h : separatorLength? s = some n) :
    ∃ w r, s = w ++ r ∧ n = w.length ∧
      (IsEnd w ∨ ∃ sp b, (∀ d ∈ sp, isSpace d = true) ∧ w = sp ++ '#' :: b ∧ ';' ∈ b ∧
        '\n' ∉ b ++ r) := by
  obtain ⟨sp, r, rfl, hsp, hr⟩ : ∃ sp r, s = sp ++ r ∧ (∀ d ∈ sp, isSpace d = true) ∧
      Front (fun c => isSpace c = false) r := by
    refine ⟨_, _, (List.takeWhile_append_dropWhile (p := isSpace)).symm, ?_⟩
    exact takeWhile_length_iff.1 (by rw [List.takeWhile_append_dropWhile])
  rw [separatorLength?_append hsp hr] at h
  obtain ⟨m, hm, rfl⟩ := Option.map_eq_some_iff.1 h
  cases r with
  | nil => cases hm
  | cons c r =>
      by_cases hmark : c = '\n' ∨ c = ';'
      · obtain rfl : 1 = m := by
          rcases hmark with rfl | rfl <;> simpa [separatorLength?] using hm
        exact ⟨sp ++ [c], r, by simp, by simp, .inl (.mark hsp hmark)⟩
      by_cases hremark : c = '#'
      · subst hremark
        obtain ⟨w, r', htext, hlen, hw⟩ := separatorLength?_comment_eq_some hm
        refine ⟨sp ++ w, r', by rw [htext, List.append_assoc], by simp [hlen], ?_⟩
        rcases hw with ⟨cs, rfl, hcs⟩ | ⟨b, rfl, hb⟩
        · exact .inl (.comment hsp hcs)
        · exact .inr ⟨sp, b, hsp, rfl, hb⟩
      · have hnone : separatorLength? (c :: r) = none := by
          have htake : (c :: r).takeWhile (fun c => c == ' ' || c == '\t') = [] :=
            takeWhile_append_of_front (w := []) (by simp) hr
          unfold separatorLength?
          simp only [htake, List.length_nil, List.drop_zero]
          split <;> simp_all
        rw [hnone] at hm
        cases hm

theorem gapLength_comment {extra : Char → Bool} {cs : List Char} (hcs : '\n' ∉ cs)
    (r : List Char) :
    gapLength extra true (cs ++ '\n' :: r) = cs.length + 1 + gapLength extra false r := by
  induction cs with
  | nil =>
      rw [List.nil_append, gapLength, if_pos rfl, if_pos rfl, List.length_nil]
  | cons c cs ih =>
      rw [List.mem_cons, not_or] at hcs
      rw [List.cons_append, gapLength, if_pos rfl, if_neg (Ne.symm hcs.1), ih hcs.2,
        List.length_cons]
      omega

/-- A comment that no line end follows runs to the end. -/
theorem gapLength_open {extra : Char → Bool} (hs : '\n' ∉ s) :
    gapLength extra true s = s.length := by
  induction s with
  | nil => rfl
  | cons c s ih =>
      rw [List.mem_cons, not_or] at hs
      rw [gapLength, if_pos rfl, if_neg (Ne.symm hs.1), ih hs.2, List.length_cons]
      omega

theorem isGap_of_isSpace {c : Char} (h : isSpace c = true) : Text.isGap c = true := by
  rcases isSpace_cases h with rfl | rfl <;> rfl

theorem gapLength_of_isEnd (h : IsEnd w) (r : List Char) :
    gapLength (· == ';') false (w ++ r) = w.length + gapLength (· == ';') false r := by
  cases h with
  | @mark sp c hsp hc =>
      refine gapLength_append _ (fun d hd => ?_) r
      rcases List.mem_append.1 hd with hd | hd
      · simp [isGap_of_isSpace (hsp d hd)]
      · obtain rfl : d = c := by simpa using hd
        rcases hc with rfl | rfl <;> rfl
  | @comment sp cs hsp hcs =>
      have hcomment : gapLength (· == ';') false ('#' :: (cs ++ '\n' :: r)) =
          cs.length + 2 + gapLength (· == ';') false r := by
        rw [gapLength, if_neg (by simp), if_neg (by decide), if_pos rfl, gapLength_comment hcs]
        omega
      rw [List.append_assoc, gapLength_append _ fun d hd => by simp [isGap_of_isSpace (hsp d hd)],
        List.cons_append, List.append_assoc, List.singleton_append, hcomment]
      simp only [List.length_append, List.length_cons, List.length_nil]
      omega

theorem takes_gap_append (h : IsEnd w) {g : List Char} (hg : Takes gap g r) :
    Takes gap (w ++ g) r := by
  rw [takes_gap_iff] at hg ⊢
  rw [List.append_assoc, gapLength_of_isEnd h, hg, List.length_append]

theorem takes_separator_append (h : IsEnd w) {g : List Char} (hg : Takes gap g r) :
    Takes separator (w ++ g) r :=
  Yields.seq (Yields.take (separatorLength?_of_isEnd h _)) hg

/-- A comment in `w` that holds `;` is over before the end of `w ++ y`. -/
def Tame (w y : List Char) : Prop :=
  ∀ a b, w = a ++ '#' :: b → ';' ∈ b → '\n' ∈ b ++ y

theorem Tame.left {w' : List Char} (h : Tame (w ++ w') y) : Tame w (w' ++ y) := by
  intro a b hw hb
  have hend := h a (b ++ w') (by rw [hw]; simp) (by simp [hb])
  rwa [List.append_assoc] at hend

theorem Tame.right {w' : List Char} (h : Tame (w ++ w') y) : Tame w' y := by
  intro a b hw hb
  exact h (w ++ a) b (by rw [hw]; simp) hb

theorem exists_isEnd (h : Takes separator w r) (htame : Tame w r) :
    ∃ w₁ w₂, w = w₁ ++ w₂ ∧ IsEnd w₁ ∧ Takes gap w₂ r := by
  have hreads : Reads id separator w r () := h.mono fun _ _ => rfl
  obtain ⟨w₁, w₂, rfl, h₁, h₂⟩ :=
    Alike.reads_seq (Alike.take separatorLength?) (Alike.take _) hreads
  refine ⟨w₁, w₂, rfl, ?_, h₂.mono fun _ _ => trivial⟩
  obtain ⟨n, hn, hw⟩ := takes_take h₁
  obtain ⟨w', r', htext, rfl, hcases⟩ := separatorLength?_eq_some hn
  obtain rfl : w₁ = w' := by rw [hw, htext, List.take_left]
  obtain rfl := List.append_cancel_left htext
  rcases hcases with hend | ⟨sp, b, -, rfl, hb, hnone⟩
  · exact hend
  · exact absurd (htame.left sp b rfl hb) hnone

/-- A gap either holds no `;` outside of comments, or it is blank up to the first. -/
theorem gapLength_cases {inComment : Bool}
    (h : gapLength (· == ';') inComment (w ++ r) = w.length) :
    gapLength (fun _ => false) inComment (w ++ r) = w.length ∨
      ∃ g g', w = g ++ ';' :: g' ∧
        ∀ s, gapLength (fun _ => false) inComment (g ++ ';' :: s) = g.length := by
  induction w generalizing inComment with
  | nil =>
      cases r with
      | nil => exact .inl rfl
      | cons c r =>
          rw [List.nil_append, gapLength, List.length_nil] at h ⊢
          refine .inl ?_
          split_ifs at h ⊢ <;> simp_all
  | cons c w ih =>
      have hnext {b : Bool} (hb : gapLength (· == ';') b (w ++ r) = w.length)
          (hstep : ∀ s, gapLength (fun _ => false) inComment (c :: s) =
            1 + gapLength (fun _ => false) b s) :
          gapLength (fun _ => false) inComment (c :: w ++ r) = (c :: w).length ∨
            ∃ g g', c :: w = g ++ ';' :: g' ∧
              ∀ s, gapLength (fun _ => false) inComment (g ++ ';' :: s) = g.length := by
        rcases ih hb with hw | ⟨g, g', rfl, hg⟩
        · refine .inl ?_
          rw [List.cons_append, hstep, hw, List.length_cons]
          omega
        · refine .inr ⟨c :: g, g', rfl, fun s => ?_⟩
          rw [List.cons_append, hstep, hg, List.length_cons]
          omega
      rw [List.cons_append, gapLength, List.length_cons] at h
      cases inComment with
      | true =>
          rw [if_pos rfl] at h
          split at h
          · next hc => exact hnext (b := false) (by omega) fun s => by simp [gapLength, hc]
          · next hc => exact hnext (b := true) (by omega) fun s => by simp [gapLength, hc]
      | false =>
          rw [if_neg (by simp)] at h
          split at h
          · next hc =>
            by_cases hgap : Text.isGap c = true
            · exact hnext (b := false) (by omega) fun s => by simp [gapLength, hgap]
            · obtain rfl : c = ';' := by simpa [hgap] using hc
              exact .inr ⟨[], w, rfl, fun s => rfl⟩
          · next hc =>
            split at h
            · next hremark =>
              refine hnext (b := true) (by omega) fun s => ?_
              subst hremark
              rfl
            · omega

theorem takes_gap_cases (h : Takes gap w r) :
    Takes blank w r ∨ ∃ g g', w = g ++ ';' :: g' ∧ ∀ s, Takes blank g (';' :: s) := by
  simp only [takes_blank_iff]
  exact gapLength_cases (takes_gap_iff.1 h)

end Separators

/-! ## Strings -/

theorem quotedLength?_cons {mark c : Char} (hc : c ≠ '\\') (s : List Char) :
    quotedLength? mark (c :: s) =
      if c = mark then some 1 else (quotedLength? mark s).map (· + 1) := by
  rw [quotedLength?] <;> intros <;> contradiction

theorem quotedLength?_pos {mark : Char} {s : List Char} {n : Nat}
    (h : quotedLength? mark s = some n) : 0 < n := by
  cases s with
  | nil => cases h
  | cons c s =>
      by_cases hc : c = '\\'
      · subst hc
        cases s with
        | nil => cases h
        | cons d s =>
            obtain ⟨m, -, rfl⟩ := Option.map_eq_some_iff.1 h
            omega
      · rw [quotedLength?_cons hc] at h
        split at h
        · obtain rfl := Option.some.inj h
          exact Nat.one_pos
        · obtain ⟨m, -, rfl⟩ := Option.map_eq_some_iff.1 h
          omega

theorem quotedLength?_le {mark : Char} :
    ∀ {s : List Char} {n : Nat}, quotedLength? mark s = some n → n ≤ s.length
  | [], _, h => by cases h
  | c :: s, n, h => by
      by_cases hc : c = '\\'
      · subst hc
        cases s with
        | nil => cases h
        | cons d s =>
            obtain ⟨m, hm, rfl⟩ := Option.map_eq_some_iff.1 h
            have := quotedLength?_le hm
            simpa using this
      · rw [quotedLength?_cons hc] at h
        split at h
        · obtain rfl := Option.some.inj h
          simp
        · obtain ⟨m, hm, rfl⟩ := Option.map_eq_some_iff.1 h
          have := quotedLength?_le hm
          simpa using this

/-- A quoted string ends within itself. -/
theorem quotedLength?_congr {mark : Char} {y z : List Char} :
    ∀ {w : List Char}, quotedLength? mark (w ++ y) = some w.length →
      quotedLength? mark (w ++ z) = some w.length
  | [], h => absurd (quotedLength?_pos h) (by simp)
  | c :: w, h => by
      by_cases hc : c = '\\'
      · subst hc
        match w, h with
        | [], h =>
            cases y with
            | nil => cases h
            | cons d y =>
                obtain ⟨m, -, hm⟩ := Option.map_eq_some_iff.1 h
                simp at hm
        | d :: w, h =>
            obtain ⟨m, hm, hlen⟩ := Option.map_eq_some_iff.1 h
            have hw : m = w.length := by simpa using hlen
            have ih := quotedLength?_congr (z := z) (hw ▸ hm)
            change (quotedLength? mark (w ++ z)).map (· + 2) = _
            rw [ih]
            rfl
      · rw [List.cons_append, quotedLength?_cons hc] at h ⊢
        split at h
        · next hmark => rw [if_pos hmark, h]
        · next hmark =>
          obtain ⟨m, hm, hlen⟩ := Option.map_eq_some_iff.1 h
          have hw : m = w.length := by simpa using hlen
          rw [if_neg hmark, quotedLength?_congr (z := z) (hw ▸ hm)]
          rfl

theorem bareLength_cons {c : Char} (hc : c ≠ '\\') (s : List Char) :
    bareLength (c :: s) = if isBareEnd c then 0 else bareLength s + 1 := by
  rw [bareLength] <;> intros <;> contradiction

theorem bareLength_append {y : List Char} :
    ∀ {w : List Char}, bareLength (w ++ y) = w.length →
      bareLength y = 0 ∧ (∀ c ∈ w, Text.isGap c = false) ∧
        ∀ z, bareLength z = 0 → bareLength (w ++ z) = w.length
  | [], h => ⟨h, by simp, fun z hz => hz⟩
  | c :: w, h => by
      by_cases hc : c = '\\'
      · subst hc
        match w, h with
        | [], h =>
            cases y with
            | nil => cases h
            | cons d y =>
                rw [List.cons_append, List.nil_append, bareLength] at h
                split at h <;> simp at h
        | d :: w, h =>
            rw [List.cons_append, List.cons_append, bareLength] at h
            split at h
            · simp at h
            · next hd =>
              obtain ⟨hy, hw, hz⟩ := bareLength_append (w := w) (by simpa using h)
              refine ⟨hy, ?_, fun z hz' => ?_⟩
              · rw [List.forall_mem_cons, List.forall_mem_cons]
                exact ⟨rfl, by simpa using hd, hw⟩
              · rw [List.cons_append, List.cons_append, bareLength, if_neg hd, hz z hz']
                rfl
      · rw [List.cons_append, bareLength_cons hc] at h
        split at h
        · simp at h
        · next hend =>
          obtain ⟨hy, hw, hz⟩ := bareLength_append (w := w) (by simpa using h)
          refine ⟨hy, List.forall_mem_cons.2 ⟨?_, hw⟩, fun z hz' => ?_⟩
          · by_contra hgap
            exact hend (by simp [isBareEnd, hgap])
          · rw [List.cons_append, bareLength_cons hc, if_neg hend, hz z hz']
            rfl

/-- A bare string is over at a character that ends it. -/
theorem front_of_bareLength {s : List Char} (h : bareLength s = 0) :
    Front (fun c => isBareEnd c = true) s := by
  cases s with
  | nil => exact front_nil _
  | cons c s =>
      rw [front_cons]
      by_cases hc : c = '\\'
      · subst hc
        rfl
      · rw [bareLength_cons hc] at h
        split at h
        · assumption
        · omega

theorem isNameChar_of_isBareEnd {c : Char} (h : isBareEnd c = true) :
    isNameChar c = false := by
  by_contra hname
  obtain ⟨hgap, -, -⟩ := isSolid_of_isNameChar (by simpa using hname)
  simp only [isBareEnd, hgap, Bool.false_or, List.contains_iff_mem] at h
  revert hname
  fin_cases h <;> decide

theorem bareLength_name_ne_zero {w : List Char} (hw : IsName w) (s : List Char) :
    bareLength (w ++ s) ≠ 0 := by
  intro hzero
  match w, hw with
  | c :: w, hw =>
      have hend := (front_cons _ c _).1 (front_of_bareLength hzero)
      have hname := hw.isNameChar c (by simp)
      rw [isNameChar_of_isBareEnd hend] at hname
      cases hname

end Parser

namespace Grammar

open TextShell.Parser Element

variable {w r s t y z : List Char} {v : Element}

/-! ## Words and values -/

theorem reads_variableName_iff :
    Reads unplaced variableName w r v ↔
      v = .ofText .variableName w [] ∧ IsName w ∧ NameEnd r := by
  rw [variableName, reads_leaf_iff, takes_name_iff]

theorem takes_variableName_iff : Takes variableName w r ↔ IsName w ∧ NameEnd r := by
  constructor
  · intro h
    obtain ⟨a, ha⟩ := uniform_variableName.reads_of_takes h
    exact (reads_variableName_iff.1 ha).2
  · rintro ⟨hw, hr⟩
    exact (yields_variableName hw hr).mono fun _ _ => trivial

theorem bareLength_le : ∀ s : List Char, bareLength s ≤ s.length
  | [] => Nat.le_refl _
  | c :: s => by
      have := bareLength_le s
      by_cases hc : c = '\\'
      · subst hc
        cases s with
        | nil => exact Nat.zero_le _
        | cons d s =>
            have := bareLength_le s
            rw [bareLength, List.length_cons, List.length_cons]
            split <;> omega
      · rw [bareLength_cons hc, List.length_cons]
        split <;> omega

theorem reads_bareString_iff :
    Reads unplaced bareString w r v ↔
      v = .ofText .bareString w [] ∧ w ≠ [] ∧ bareLength (w ++ r) = w.length ∧
        (w ++ r).head? ≠ some '#' ∧ startsWithWord ["else", "split"] (w ++ r) = false := by
  rw [bareString, reads_leaf_iff, takes_take_iff fun s n h => ?_]
  · refine and_congr_right fun _ => ?_
    rw [← List.length_pos_iff]
    generalize w ++ r = s
    dsimp only
    split
    · next h =>
      simp only [Bool.or_eq_true, decide_eq_true_eq] at h
      refine ⟨nofun, fun ⟨hw, hlen, hhead, hword⟩ => ?_⟩
      rcases h with (h | h) | h
      · omega
      · exact absurd h hhead
      · rw [hword] at h
        cases h
    · next h =>
      simp only [Bool.or_eq_true, decide_eq_true_eq, not_or, Bool.not_eq_true] at h
      rw [Option.some.injEq]
      exact ⟨fun hlen => ⟨by omega, hlen, h.1.2, h.2⟩, fun hlen => hlen.2.1⟩
  · dsimp only at h
    split at h
    · cases h
    · obtain rfl := Option.some.inj h
      exact bareLength_le s

/-- A bare string starts with no mark of another value. -/
theorem front_of_bareLength_ne_zero (h : bareLength s ≠ 0) :
    Front (fun c => c ∉ ['{', '"', '\'']) s := by
  cases s with
  | nil => exact front_nil _
  | cons c s =>
      rw [front_cons]
      intro hc
      fin_cases hc <;> exact h rfl

/-- A word is found in front of both texts or of none, because what follows either
starts alike and continues no word. -/
theorem startsWithWord_append {words : List String} (hhead : y.head? = z.head?)
    (hwords : ∀ word ∈ words, IsName word.toList) (hz : NameEnd z) (hw : w ≠ [])
    (h : startsWithWord words (w ++ z) = true) : startsWithWord words (w ++ y) = true := by
  obtain ⟨word, hmem, r, htext, hend⟩ := startsWithWord_iff.1 h
  refine startsWithWord_iff.2 ⟨word, hmem, ?_⟩
  rcases List.append_eq_append_iff.1 htext with ⟨x, hx, rfl⟩ | ⟨x, rfl, rfl⟩
  · cases x with
    | nil =>
        refine ⟨y, by rw [hx, List.append_nil], ?_⟩
        rw [atWordEnd_congr hhead]
        exact hend
    | cons c x =>
        have hc := (hwords word hmem).isNameChar c (by simp [hx])
        rw [List.cons_append, NameEnd, front_cons, hc] at hz
        cases hz
  · refine ⟨x ++ y, by rw [List.append_assoc], ?_⟩
    cases x with
    | nil => exact (atWordEnd_congr hhead).trans hend
    | cons c x => exact hend

theorem refuses_keyword_of_name {word : String} (hword : IsName word.toList)
    (h : Front (fun c => isNameStart c = false) s) : Refuses (keyword word) s := by
  refine refuses_keyword (Bool.eq_false_iff.2 fun hstart => ?_)
  obtain ⟨word', hmem, r, htext, -⟩ := startsWithWord_iff.1 hstart
  obtain rfl : word' = word := by simpa using hmem
  have hfront := isName_front hword r
  rw [← htext] at hfront
  cases s with
  | nil => exact hword.ne_nil (List.append_eq_nil_iff.1 htext.symm).1
  | cons c s =>
      rw [front_cons] at h hfront
      simp [h] at hfront

theorem exists_takes_blank (s : List Char) : ∃ g r, s = g ++ r ∧ Takes blank g r := by
  have hle := gapLength_le (fun _ => false) false s
  refine ⟨s.take (gapLength (fun _ => false) false s), s.drop _,
    (List.take_append_drop _ _).symm, ?_⟩
  rw [takes_blank_iff, List.take_append_drop, List.length_take, Nat.min_eq_left hle]

theorem refuses_space_of_front (h : Front (fun c => isSpace c = false) s) :
    Refuses space s :=
  refuses_space (h.mono fun c hc => by simpa [isSpace] using hc)

theorem isNameStart_of_isGap {c : Char} (h : Text.isGap c = true) :
    isNameStart c = false := by
  by_contra hname
  have hsolid := isSolid_of_isNameChar (isNameStart_isNameChar (by simpa using hname))
  rw [hsolid.1] at h
  cases h

theorem isName_of_mem_words {word : String} (h : word ∈ ["in", "split"]) :
    IsName word.toList := by
  simp only [List.mem_cons, List.not_mem_nil, or_false] at h
  rcases h with rfl | rfl <;> exact ⟨rfl, by simp; decide⟩

theorem isName_of_mem_barred {word : String} (h : word ∈ ["else", "split"]) :
    IsName word.toList := by
  simp only [List.mem_cons, List.not_mem_nil, or_false] at h
  rcases h with rfl | rfl <;> exact ⟨rfl, by simp; decide⟩

theorem bareLength_of_isGap {c : Char} (h : Text.isGap c = true) (s : List Char) :
    bareLength (c :: s) = 0 := by
  have hne : c ≠ '\\' := by
    rintro rfl
    cases h
  rw [bareLength_cons hne, if_pos (by simp [isBareEnd, h])]

theorem takes_blank_nil (h : Front IsSolid s) : Takes blank [] s :=
  takes_blank (by simp) h

/-- Where a bare string ends, a twin text ends it too. -/
theorem reads_bareString_congr (hhead : y.head? = z.head?)
    (hbare : bareLength y = 0 → bareLength z = 0) (h : Reads unplaced bareString w y v) :
    Reads unplaced bareString w z v := by
  obtain ⟨hv, hne, hlen, hhash, hword⟩ := reads_bareString_iff.1 h
  obtain ⟨hy, -, hz⟩ := bareLength_append hlen
  have hend : NameEnd z :=
    (front_of_bareLength (hbare hy)).mono fun _ => isNameChar_of_isBareEnd
  refine reads_bareString_iff.2 ⟨hv, hne, hz z (hbare hy), ?_, ?_⟩
  · rwa [append_head? hne z y]
  · refine Bool.eq_false_iff.2 fun hstart => ?_
    rw [startsWithWord_append hhead (fun _ => isName_of_mem_barred) hend hne hstart] at hword
    cases hword

theorem refuses_control {value : Parser Element}
    (h : ∀ word ∈ ["for", "if", "while"], Refuses (keyword word) s) :
    Refuses (controlStatement value) s :=
  (Refuses.element (h "for" (by simp)).bind).orElse <|
    (Refuses.element (h "if" (by simp)).bind).orElse <|
    Refuses.tagged (h "while" (by simp)).bind

theorem isName_of_mem_control {word : String} (h : word ∈ ["for", "if", "while"]) :
    IsName word.toList := by
  refine isName_of_mem_reserved word ?_
  revert h
  simp only [reserved, List.mem_cons]
  tauto

theorem refuses_control_of_front {value : Parser Element}
    (h : Front (fun c => isNameStart c = false) s) : Refuses (controlStatement value) s :=
  refuses_control fun _ hword => refuses_keyword_of_name (isName_of_mem_control hword) h

theorem refuses_keyword_ne {word other : String} (hword : IsName word.toList)
    (hother : IsName other.toList) (hne : word ≠ other) (hend : NameEnd r) :
    Refuses (keyword word) (other.toList ++ r) := by
  refine refuses_keyword (Bool.eq_false_iff.2 fun hstart => hne ?_)
  obtain ⟨hmem, -⟩ := (startsWithWord_name (by simpa using hword.isNameChar)
    hother.isNameChar hend).1 hstart
  simpa using (List.mem_singleton.1 hmem).symm

end Grammar

end TextShell
