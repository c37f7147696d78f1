import Mathlib
import TextShell.Excerpt
import TextShell.Program.Cursor

/-!
# Where an excerpt points

A place in a source is numbered by the parser, which counts a line at each `\n` and at
nothing else.  An excerpt cuts the source at every character that ends a line.  The two
agree on a source that has no other line ends, and then the excerpt shows what the place
asks for; where there is another one, the line that holds it is cut in two and cannot be
shown.

`linesFrom_eq` compares the two ways to cut, `splitOn_around` gives the rows of an excerpt
one by one, and `filter_inWindow` is the arithmetic of the rows that are chosen.

## Main results

* `splitOn_around` — the rows of an excerpt.
* `points_at_every_place_iff` — an excerpt points at the right character wherever the
  place is, if and only if the source has no line end but `\n`.
-/

namespace TextShell

namespace Text

/-! ## Two ways to cut a text into lines -/

/-- The lines without an empty one at the end. -/
def withoutEmptyEnd (lines : List (List Char)) : List (List Char) :=
  if lines.getLast? = some [] then lines.dropLast else lines

theorem withoutEmptyEnd_cons (line : List Char) {lines : List (List Char)} (h : lines ≠ []) :
    withoutEmptyEnd (line :: lines) = line :: withoutEmptyEnd lines := by
  obtain ⟨next, rest, rfl⟩ := List.exists_cons_of_ne_nil h
  unfold withoutEmptyEnd
  rw [List.getLast?_cons_cons, List.dropLast_cons_cons]
  split <;> rfl

/-- Only the last line can be missing, and only if it is empty. -/
theorem getElem?_withoutEmptyEnd {lines : List (List Char)} {i : Nat} {line : List Char}
    (hline : lines[i]? = some line) (hlast : line = [] → i + 1 < lines.length) :
    (withoutEmptyEnd lines)[i]? = some line := by
  obtain ⟨hi, -⟩ := List.getElem?_eq_some_iff.1 hline
  unfold withoutEmptyEnd
  split
  next hend =>
    have hbefore : i < lines.length - 1 := by
      by_contra hnot
      obtain rfl : i = lines.length - 1 := by omega
      rw [List.getLast?_eq_getElem?, hline] at hend
      have := hlast (Option.some.inj hend)
      omega
    rw [List.getElem?_dropLast, if_pos hbefore, hline]
  next => exact hline

theorem splitOn_cons_self (s : List Char) :
    ('\n' :: s).splitOn '\n' = [] :: s.splitOn '\n' := by
  simp [List.splitOn, List.splitOnP_cons_eq_if_modifyHead]

theorem splitOn_cons_of_ne {c : Char} (h : c ≠ '\n') (s : List Char) :
    (c :: s).splitOn '\n' = (s.splitOn '\n').modifyHead (c :: ·) := by
  simp [List.splitOn, List.splitOnP_cons_eq_if_modifyHead, h]

theorem length_splitOn (s : List Char) : (s.splitOn '\n').length = s.count '\n' + 1 := by
  induction s with
  | nil => rfl
  | cons c s ih =>
    by_cases hc : c = '\n'
    · subst hc
      simp [splitOn_cons_self, ih]
    · simp [splitOn_cons_of_ne hc, ih, hc]

/-- A character that is no `\n` stands in the line that is counted in front of it. -/
theorem exists_line_of_mem {c : Char} (hc : c ≠ '\n') (front back : List Char) :
    ∃ line, ((front ++ c :: back).splitOn '\n')[front.count '\n']? = some line ∧ c ∈ line := by
  induction front with
  | nil =>
    obtain ⟨line, rest, hrest⟩ := List.exists_cons_of_ne_nil (List.splitOn_ne_nil '\n' back)
    exact ⟨c :: line, by simp [splitOn_cons_of_ne hc, hrest], by simp⟩
  | cons d front ih =>
    obtain ⟨line, hline, hmem⟩ := ih
    by_cases hd : d = '\n'
    · subst hd
      exact ⟨line, by simpa [splitOn_cons_self] using hline, hmem⟩
    · rw [List.cons_append, splitOn_cons_of_ne hd, List.count_cons_of_ne hd]
      cases hparts : (front ++ c :: back).splitOn '\n' with
      | nil => simp [hparts] at hline
      | cons first rest =>
        cases hcount : front.count '\n' with
        | zero =>
          obtain rfl : first = line := by simpa [hparts, hcount] using hline
          exact ⟨d :: first, by simp, by simp [hmem]⟩
        | succ k =>
          exact ⟨line, by simpa [hparts, hcount] using hline, hmem⟩

theorem modifyHead_reverse_nil (lines : List (List Char)) :
    lines.modifyHead (([] : List Char).reverse ++ ·) = lines :=
  congrFun List.modifyHead_id lines

/-- Where `\n` is the only line end, the lines are what stands between them. -/
theorem linesFrom_eq {s : List Char} (h : ∀ c ∈ s, isLineEnd c = true → c = '\n')
    (line : List Char) :
    linesFrom line s = withoutEmptyEnd ((s.splitOn '\n').modifyHead (line.reverse ++ ·)) := by
  fun_induction linesFrom line s with
  | case1 line hempty =>
    obtain rfl : line = [] := by simpa using hempty
    rfl
  | case2 line hne =>
    have hline : line ≠ [] := by simpa using hne
    simp [withoutEmptyEnd, hline]
  | case3 line rest ih => exact absurd (h '\r' (by simp) (by decide)) (by decide)
  | case4 line c rest _ hend ih =>
    obtain rfl := h c (by simp) hend
    have hrest : rest.splitOn '\n' ≠ [] := List.splitOn_ne_nil _ _
    rw [ih fun c hc => h c (by simp [hc]), splitOn_cons_self, List.modifyHead_cons,
      withoutEmptyEnd_cons _ hrest, modifyHead_reverse_nil, List.append_nil]
  | case5 line c rest _ hplain ih =>
    have hc : c ≠ '\n' := by
      rintro rfl
      exact hplain (by decide)
    rw [ih fun c hc => h c (by simp [hc]), splitOn_cons_of_ne hc, List.modifyHead_modifyHead]
    congr 2
    funext t
    simp

theorem not_isLineEnd_of_mem_linesFrom {line s : List Char}
    (h : ∀ c ∈ line, isLineEnd c = false) :
    ∀ l ∈ linesFrom line s, ∀ c ∈ l, isLineEnd c = false := by
  fun_induction linesFrom line s with
  | case1 line _ => simp
  | case2 line _ => simpa using h
  | case3 line rest ih => simpa using ⟨h, ih (by simp)⟩
  | case4 line c rest _ _ ih => simpa using ⟨h, ih (by simp)⟩
  | case5 line c rest _ hplain ih =>
    exact ih (List.forall_mem_cons.2 ⟨Bool.eq_false_iff.2 hplain, h⟩)

end Text

namespace Cursor

/-! ## Places -/

/-- The line of a place counts each `\n` in front of it. -/
theorem skip_line (at_ : Cursor) (n : Nat) :
    (at_.skip n).line = at_.line + (at_.rest.take n).count '\n' := by
  induction n generalizing at_ with
  | zero => simp [skip]
  | succ n ih =>
    obtain ⟨rest, offset, line, col⟩ := at_
    cases rest with
    | nil => simp [skip]
    | cons c rest =>
      by_cases hc : c = '\n'
      · subst hc
        simp [skip, ih, step]
        omega
      · simp [skip, ih, step, hc]

theorem skip_col_pos {at_ : Cursor} (h : 0 < at_.col) (n : Nat) : 0 < (at_.skip n).col := by
  induction n generalizing at_ with
  | zero => simpa [skip]
  | succ n ih =>
    obtain ⟨rest, offset, line, col⟩ := at_
    cases rest with
    | nil => simpa [skip]
    | cons c rest =>
      refine ih ?_
      unfold step
      split <;> simp

end Cursor

namespace Excerpt

/-! ## Rows -/

/-- The margin of a row: its mark, and its label under those of the other rows. -/
def margin (mark : Char) (width : Nat) (label : List Char) : List Char :=
  mark :: ' ' :: (List.replicate (width - label.length) ' ' ++ label)

/-- A row: its margin, the gutter and the text. -/
def gutterRow (mark : Char) (width : Nat) (label text : List Char) : List Char :=
  margin mark width label ++ ' ' :: '|' :: ' ' :: text

/-- The row of a line under its number. -/
def lineRow (mark : Char) (width : Nat) (line : List Char × Nat) : List Char :=
  gutterRow mark width (toString line.2).toList line.1

/-- The row of the caret. -/
def caretRow (width col : Nat) : List Char :=
  gutterRow ' ' width [] (List.replicate (col - 1) ' ' ++ ['^'])

/-- The rows of the lines in front of a line, two at most. -/
def rowsAbove (lines : List (List Char)) (line width : Nat) : List (List Char) :=
  (((lines.take (line - 1)).zipIdx 1).drop (line - 3)).map (lineRow ' ' width)

/-- The rows of the lines behind a line, two at most. -/
def rowsBelow (lines : List (List Char)) (line width : Nat) : List (List Char) :=
  (((lines.drop line).zipIdx (line + 1)).take 2).map (lineRow ' ' width)

/-- The rows around a line: its own, with the caret under it, between those of its neighbours. -/
def rowsAround (lines : List (List Char)) (line col width : Nat) (text : List Char) :
    List (List Char) :=
  rowsAbove lines line width ++
    lineRow '>' width (text, line) :: caretRow width col :: rowsBelow lines line width

theorem length_margin (mark : Char) {width : Nat} {label : List Char}
    (h : label.length ≤ width) : (margin mark width label).length = width + 2 := by
  simp [margin]
  omega

/-- Whatever the label is, the gutter and the text begin in one column. -/
theorem getElem?_gutterRow (mark : Char) {width : Nat} {label : List Char}
    (h : label.length ≤ width) (text : List Char) (i : Nat) :
    (gutterRow mark width label text)[width + 2 + i]? = (' ' :: '|' :: ' ' :: text)[i]? := by
  rw [gutterRow, List.getElem?_append_right (by rw [length_margin mark h]; omega),
    length_margin mark h, Nat.add_sub_cancel_left]

theorem padLeft_toList (width : Nat) (s : String) :
    (padLeft width s).toList = List.replicate (width - s.toList.length) ' ' ++ s.toList := by
  simp [padLeft, String.length_toList]

theorem row_of_ne {line : Int} {number : Nat} (h : (number : Int) ≠ line) (width : Nat)
    (col : Option Int) (text : List Char) :
    (row width line col number (String.ofList text)).map String.toList =
      [lineRow ' ' width (text, number)] := by
  have hplace : ((number : Int) == line) = false := by simpa using h
  simp [row, hplace, padLeft_toList, lineRow, gutterRow, margin]

theorem row_self (width line col : Nat) (text : List Char) :
    (row width line (some (col : Int)) line (String.ofList text)).map String.toList =
      [lineRow '>' width (text, line), caretRow width col] := by
  have hcol : ((col : Int) - 1).toNat = col - 1 := by omega
  simp [row, padLeft_toList, lineRow, caretRow, gutterRow, margin, hcol]

/-! ## The lines that are shown -/

/-- The number is one of those shown around `line`, of `count` in all. -/
def inWindow (line count number : Nat) : Bool :=
  decide (max 1 ((line : Int) - standardRadius) ≤ number) &&
    decide ((number : Int) ≤ min (count : Int) (line + standardRadius))

theorem inWindow_iff {line count number : Nat} :
    inWindow line count number = true ↔
      (1 ≤ number ∧ line ≤ number + 2) ∧ number ≤ count ∧ number ≤ line + 2 := by
  rw [inWindow, Bool.and_eq_true, decide_eq_true_iff, decide_eq_true_iff, standardRadius]
  omega

theorem filter_zipIdx_ge {α : Type} (l : List α) (k m : Nat) :
    (l.zipIdx k).filter (fun p => m ≤ p.2) = (l.zipIdx k).drop (m - k) := by
  induction l generalizing k with
  | nil => simp
  | cons a l ih =>
    rw [List.zipIdx_cons, List.filter_cons, ih]
    by_cases hm : m ≤ k
    · have h0 : m - k = 0 := by omega
      have h1 : m - (k + 1) = 0 := by omega
      simp [hm, h0, h1]
    · obtain ⟨d, hd⟩ : ∃ d, m - k = d + 1 := ⟨m - k - 1, by omega⟩
      have h1 : m - (k + 1) = d := by omega
      simp [hm, hd, h1]

theorem filter_zipIdx_le {α : Type} (l : List α) (k m : Nat) :
    (l.zipIdx k).filter (fun p => p.2 ≤ m) = (l.zipIdx k).take (m + 1 - k) := by
  induction l generalizing k with
  | nil => simp
  | cons a l ih =>
    rw [List.zipIdx_cons, List.filter_cons, ih]
    by_cases hm : k ≤ m
    · obtain ⟨d, hd⟩ : ∃ d, m + 1 - k = d + 1 := ⟨m - k, by omega⟩
      have h1 : m + 1 - (k + 1) = d := by omega
      simp [hm, hd, h1]
    · have h0 : m + 1 - k = 0 := by omega
      have h1 : m + 1 - (k + 1) = 0 := by omega
      simp [hm, h0, h1]

theorem exists_of_mem_rowsAbove {lines : List (List Char)} {line width : Nat} {row : List Char}
    (h : row ∈ rowsAbove lines line width) :
    ∃ text ∈ lines, ∃ number < line, row = lineRow ' ' width (text, number) := by
  obtain ⟨⟨text, number⟩, hl, rfl⟩ := List.mem_map.1 h
  have hl := List.mem_of_mem_drop hl
  have hnumber := List.mem_zipIdx hl
  rw [List.length_take] at hnumber
  exact ⟨text, List.mem_of_mem_take (List.fst_mem_of_mem_zipIdx hl), number, by omega, rfl⟩

theorem exists_of_mem_rowsBelow {lines : List (List Char)} {line width : Nat} {row : List Char}
    (h : row ∈ rowsBelow lines line width) :
    ∃ text ∈ lines, ∃ number, number ≤ min lines.length (line + 2) ∧
      row = lineRow ' ' width (text, number) := by
  obtain ⟨⟨text, number⟩, hl, rfl⟩ := List.mem_map.1 h
  have htwo : 2 = line + 2 + 1 - (line + 1) := by omega
  rw [htwo, ← filter_zipIdx_le] at hl
  obtain ⟨hl, hlast⟩ := List.mem_filter.1 hl
  have hnumber := List.mem_zipIdx hl
  rw [List.length_drop] at hnumber
  rw [decide_eq_true_eq] at hlast
  exact ⟨text, List.mem_of_mem_drop (List.fst_mem_of_mem_zipIdx hl), number, by omega, rfl⟩

/-- Shown are the line itself and up to two lines on each side. -/
theorem filter_inWindow {lines : List (List Char)} {line : Nat} {text : List Char}
    (htext : lines[line - 1]? = some text) (hline : 1 ≤ line) :
    (lines.zipIdx 1).filter (fun l => inWindow line lines.length l.2) =
      ((lines.take (line - 1)).zipIdx 1).drop (line - 3) ++
        (text, line) :: ((lines.drop line).zipIdx (line + 1)).take 2 := by
  obtain ⟨hbound, hget⟩ := List.getElem?_eq_some_iff.1 htext
  have hparts : lines = lines.take (line - 1) ++ text :: lines.drop line := by
    have hdrop := List.drop_eq_getElem_cons hbound
    rw [hget, Nat.sub_add_cancel hline] at hdrop
    rw [← hdrop, List.take_append_drop]
  have hnumber : 1 + (lines.take (line - 1)).length = line := by
    rw [List.length_take]
    omega
  have habove : ((lines.take (line - 1)).zipIdx 1).filter
      (fun l => inWindow line lines.length l.2) =
        ((lines.take (line - 1)).zipIdx 1).filter fun l => line - 2 ≤ l.2 := by
    refine List.filter_congr fun l hl => ?_
    have hl := List.mem_zipIdx hl
    rw [Bool.eq_iff_iff, inWindow_iff, decide_eq_true_eq]
    omega
  have hbelow : ((lines.drop line).zipIdx (line + 1)).filter
      (fun l => inWindow line lines.length l.2) =
        ((lines.drop line).zipIdx (line + 1)).filter fun l => l.2 ≤ line + 2 := by
    refine List.filter_congr fun l hl => ?_
    have hl := List.mem_zipIdx hl
    rw [List.length_drop] at hl
    rw [Bool.eq_iff_iff, inWindow_iff, decide_eq_true_eq]
    omega
  have hself : inWindow line lines.length line = true := inWindow_iff.2 (by omega)
  have hfirst : line - 2 - 1 = line - 3 := by omega
  have hlast : line + 2 + 1 - (line + 1) = 2 := by omega
  calc (lines.zipIdx 1).filter (fun l => inWindow line lines.length l.2)
      = ((lines.take (line - 1) ++ text :: lines.drop line).zipIdx 1).filter
          (fun l => inWindow line lines.length l.2) := by rw [← hparts]
    _ = _ := by
      rw [List.zipIdx_append, List.zipIdx_cons, hnumber, List.filter_append, habove,
        List.filter_cons_of_pos (by exact hself), hbelow, filter_zipIdx_ge, filter_zipIdx_le,
        hfirst, hlast]

/-! ## The rows of an excerpt -/

/-- The width of the numbers around `line`, of `count` in all. -/
def numberWidth (line count : Nat) : Nat := (toString (min count (line + 2))).toList.length

theorem length_toString_le {m n : Nat} (h : m ≤ n) :
    (toString m).toList.length ≤ (toString n).toList.length := by
  have hdigits : ∀ k : Nat, (toString k).toList = Nat.toDigits 10 k := fun k => Nat.toList_repr
  have hpos : 0 < (Nat.toDigits 10 n).length := List.length_pos_iff.2 Nat.toDigits_ne_nil
  have hn := (Nat.length_toDigits_le_iff (by omega) hpos).1 le_rfl
  rw [hdigits, hdigits]
  exact (Nat.length_toDigits_le_iff (by omega) hpos).2 (by omega)

theorem around_eq {source : String} {line : Nat} (hline : 1 ≤ line)
    (hle : line ≤ (Text.lines source).length) (col : Option Int) :
    around source line col =
      "\n".intercalate ((((Text.lines source).zipIdx 1).filter
        fun l => inWindow line (Text.lines source).length l.2).flatMap
          fun l => row (numberWidth line (Text.lines source).length) line col l.2 l.1) := by
  have hlast : min ((Text.lines source).length : Int) (line + standardRadius) =
      ((min (Text.lines source).length (line + 2) : Nat) : Int) := by
    rw [standardRadius]
    omega
  have hwidth : (toString (min ((Text.lines source).length : Int) (line + standardRadius))).length =
      numberWidth line (Text.lines source).length := by
    rw [hlast, ← String.length_toList]
    rfl
  have hinside : (decide ((line : Int) < 1) ||
      decide (((Text.lines source).length : Int) < line)) = false := by
    rw [Bool.or_eq_false_iff, decide_eq_false_iff_not, decide_eq_false_iff_not]
    omega
  simp only [around, hinside, hwidth, inWindow, Bool.false_eq_true, if_false]

/-- The rows around a line that the source has, joined. -/
theorem toList_around {source : String} {lines : List (List Char)}
    (hlines : Text.linesFrom [] source.toList = lines) {line : Nat} {text : List Char}
    (htext : lines[line - 1]? = some text) (hline : 1 ≤ line) (col : Nat) :
    (around source line (some (col : Int))).toList =
      ['\n'].intercalate (rowsAround lines line col (numberWidth line lines.length) text) := by
  have hsource : Text.lines source = lines.map String.ofList := by
    rw [Text.lines, hlines]
  have hlength : (Text.lines source).length = lines.length := by
    rw [hsource, List.length_map]
  obtain ⟨hbound, -⟩ := List.getElem?_eq_some_iff.1 htext
  generalize hwidth : numberWidth line lines.length = width
  -- Every row but the one of the line itself stands for one line alone.
  have hrow : ∀ l : List Char × Nat, l.2 ≠ line →
      (row width line (some (col : Int)) l.2 (String.ofList l.1)).map String.toList =
        [lineRow ' ' width l] :=
    fun l hl => row_of_ne (by omega) width _ l.1
  have habove : ((lines.take (line - 1)).zipIdx 1 |>.drop (line - 3)).flatMap
      (fun l => (row width line (some (col : Int)) l.2 (String.ofList l.1)).map String.toList) =
        rowsAbove lines line width := by
    rw [rowsAbove, List.map_eq_flatMap]
    refine List.flatMap_congr fun l hl => hrow l ?_
    have hnumber := List.mem_zipIdx (List.mem_of_mem_drop hl)
    rw [List.length_take] at hnumber
    omega
  have hbelow : ((lines.drop line).zipIdx (line + 1) |>.take 2).flatMap
      (fun l => (row width line (some (col : Int)) l.2 (String.ofList l.1)).map String.toList) =
        rowsBelow lines line width := by
    rw [rowsBelow, List.map_eq_flatMap]
    refine List.flatMap_congr fun l hl => hrow l ?_
    have hnumber := List.mem_zipIdx (List.mem_of_mem_take hl)
    omega
  rw [around_eq hline (by omega), String.toList_intercalate, hlength, hwidth, hsource,
    List.zipIdx_map, List.filter_map, List.flatMap_map, List.map_flatMap]
  simp only [Function.comp_def, Prod.map_snd, Prod.map_fst, id_eq, filter_inWindow htext hline,
    List.flatMap_append, List.flatMap_cons, habove, hbelow, row_self]
  rfl

theorem not_isLineEnd_of_isDigit {c : Char} (h : c.isDigit = true) :
    Text.isLineEnd c = false := by
  have hbounds : 48 ≤ c.toNat ∧ c.toNat ≤ 57 := Char.isDigit_iff_toNat.1 h
  simp [Text.isLineEnd]
  omega

theorem not_isLineEnd_gutterRow {mark : Char} (hmark : Text.isLineEnd mark = false) (width : Nat)
    {label text : List Char} (hlabel : ∀ c ∈ label, Text.isLineEnd c = false)
    (htext : ∀ c ∈ text, Text.isLineEnd c = false) :
    ∀ c ∈ gutterRow mark width label text, Text.isLineEnd c = false := by
  have hblank : Text.isLineEnd ' ' = false := by decide
  have hgutter : Text.isLineEnd '|' = false := by decide
  intro c hc
  simp only [gutterRow, margin, List.mem_append, List.mem_cons, List.mem_replicate] at hc
  rcases hc with (rfl | rfl | ⟨-, rfl⟩ | hc) | rfl | rfl | rfl | hc
  · exact hmark
  · exact hblank
  · exact hblank
  · exact hlabel c hc
  · exact hblank
  · exact hgutter
  · exact hblank
  · exact htext c hc

theorem not_isLineEnd_lineRow {mark : Char} (hmark : Text.isLineEnd mark = false) (width : Nat)
    {line : List Char × Nat} (hline : ∀ c ∈ line.1, Text.isLineEnd c = false) :
    ∀ c ∈ lineRow mark width line, Text.isLineEnd c = false := by
  refine not_isLineEnd_gutterRow hmark width (fun c hc => ?_) hline
  have hdigits : (toString line.2).toList = Nat.toDigits 10 line.2 := Nat.toList_repr
  rw [hdigits] at hc
  exact not_isLineEnd_of_isDigit (Nat.isDigit_of_mem_toDigits (by omega) (by omega) hc)

theorem not_isLineEnd_caretRow (width col : Nat) :
    ∀ c ∈ caretRow width col, Text.isLineEnd c = false := by
  refine not_isLineEnd_gutterRow (by decide) width (by simp) fun c hc => ?_
  rcases List.mem_append.1 hc with hc | hc
  · rw [List.eq_of_mem_replicate hc]
    decide
  · rw [List.mem_singleton.1 hc]
    decide

theorem not_isLineEnd_of_mem_rows {lines : List (List Char)}
    (hlines : ∀ l ∈ lines, ∀ c ∈ l, Text.isLineEnd c = false) {text : List Char}
    (htext : text ∈ lines) {line col width : Nat} {row : List Char}
    (hrow : row ∈ rowsAround lines line col width text) :
    ∀ c ∈ row, Text.isLineEnd c = false := by
  rw [rowsAround, List.mem_append, List.mem_cons, List.mem_cons] at hrow
  rcases hrow with hrow | rfl | rfl | hrow
  · obtain ⟨text, htext, number, -, rfl⟩ := exists_of_mem_rowsAbove hrow
    exact not_isLineEnd_lineRow (by decide) width (hlines text htext)
  · exact not_isLineEnd_lineRow (by decide) width (hlines text htext)
  · exact not_isLineEnd_caretRow width col
  · obtain ⟨text, htext, number, -, rfl⟩ := exists_of_mem_rowsBelow hrow
    exact not_isLineEnd_lineRow (by decide) width (hlines text htext)

/-- The rows around a line that the source has. -/
theorem splitOn_around {source : String} {lines : List (List Char)}
    (hlines : Text.linesFrom [] source.toList = lines) {line : Nat} {text : List Char}
    (htext : lines[line - 1]? = some text) (hline : 1 ≤ line) (col : Nat) :
    (around source line (some (col : Int))).toList.splitOn '\n' =
      rowsAround lines line col (numberWidth line lines.length) text := by
  have hends : ∀ l ∈ lines, ∀ c ∈ l, Text.isLineEnd c = false :=
    hlines ▸ Text.not_isLineEnd_of_mem_linesFrom (by simp)
  rw [toList_around hlines htext hline, List.splitOn_intercalate]
  · intro row hrow hnewline
    have hplain := not_isLineEnd_of_mem_rows hends (List.mem_of_getElem? htext) hrow
    exact absurd (hplain '\n' hnewline) (by decide)
  · simp [rowsAround]

/-- Whatever the source is, no line end is left in a row. -/
theorem not_isLineEnd_of_mem_around {source : String} {line col : Nat} (hline : 1 ≤ line)
    {row : List Char} (hrow : row ∈ (around source line (some (col : Int))).toList.splitOn '\n') :
    ∀ c ∈ row, Text.isLineEnd c = false := by
  have hends : ∀ l ∈ Text.linesFrom [] source.toList, ∀ c ∈ l, Text.isLineEnd c = false :=
    Text.not_isLineEnd_of_mem_linesFrom (by simp)
  cases htext : (Text.linesFrom [] source.toList)[line - 1]? with
  | some text =>
    rw [splitOn_around rfl htext hline] at hrow
    exact not_isLineEnd_of_mem_rows hends (List.mem_of_getElem? htext) hrow
  | none =>
    have hbeyond : (Text.linesFrom [] source.toList).length ≤ line - 1 :=
      List.getElem?_eq_none_iff.1 htext
    have hlength : (Text.lines source).length = (Text.linesFrom [] source.toList).length :=
      List.length_map _
    have hempty : around source line (some (col : Int)) = "" := by
      rw [around, if_pos]
      rw [Bool.or_eq_true, decide_eq_true_eq, decide_eq_true_eq]
      omega
    rw [hempty] at hrow
    obtain rfl : row = [] := by simpa using hrow
    simp

/-! ## Pointing at a place -/

/-- What stands between one `\n` of a source and the next. -/
def delimited (source : String) : List (List Char) := source.toList.splitOn '\n'

/-- The rows show the line of the place between its neighbours, and point at its column. -/
structure Points (source : String) (line col : Nat) (rows : List (List Char)) (width : Nat)
    (text : List Char) : Prop where
  text_eq : (delimited source)[line - 1]? = some text
  rows_eq : rows = rowsAround (Text.withoutEmptyEnd (delimited source)) line col width text
  /-- One row is marked. -/
  marked : rows.countP (fun row => row.head? == some '>') = 1
  /-- The gutter is in one column. -/
  gutter : ∀ row ∈ rows, row[width + 3]? = some '|'
  /-- The caret is below the character in this column of the line. -/
  caret : (caretRow width col)[width + 4 + col]? = some '^' ∧
    (lineRow '>' width (text, line))[width + 4 + col]? = text[col - 1]?

/-- The excerpt points at this column of this line. -/
def PointsAt (source : String) (line col : Nat) (excerpt : String) : Prop :=
  ∃ width text, Points source line col (excerpt.toList.splitOn '\n') width text

theorem countP_marked (lines : List (List Char)) (line col width : Nat) (text : List Char) :
    (rowsAround lines line col width text).countP (fun row => row.head? == some '>') = 1 := by
  have habove : (rowsAbove lines line width).countP (fun row => row.head? == some '>') = 0 := by
    refine List.countP_eq_zero.2 fun row hrow => ?_
    obtain ⟨text, -, number, -, rfl⟩ := exists_of_mem_rowsAbove hrow
    simp [lineRow, gutterRow, margin]
  have hbelow : (rowsBelow lines line width).countP (fun row => row.head? == some '>') = 0 := by
    refine List.countP_eq_zero.2 fun row hrow => ?_
    obtain ⟨text, -, number, -, rfl⟩ := exists_of_mem_rowsBelow hrow
    simp [lineRow, gutterRow, margin]
  rw [rowsAround, List.countP_append, habove, List.countP_cons_of_pos (by rfl),
    List.countP_cons_of_neg (by simp [caretRow, gutterRow, margin]), hbelow]

theorem getElem?_gutter {lines : List (List Char)} {line width : Nat}
    (hle : line ≤ lines.length)
    (hwidth : ∀ number ≤ min lines.length (line + 2), (toString number).toList.length ≤ width)
    {col : Nat} {text row : List Char} (hrow : row ∈ rowsAround lines line col width text) :
    row[width + 3]? = some '|' := by
  rw [rowsAround, List.mem_append, List.mem_cons, List.mem_cons] at hrow
  rcases hrow with hrow | rfl | rfl | hrow
  · obtain ⟨text, -, number, hnumber, rfl⟩ := exists_of_mem_rowsAbove hrow
    exact getElem?_gutterRow ' ' (hwidth number (by omega)) text 1
  · exact getElem?_gutterRow '>' (hwidth line (by omega)) text 1
  · exact getElem?_gutterRow ' ' (by simp) _ 1
  · obtain ⟨text, -, number, hnumber, rfl⟩ := exists_of_mem_rowsBelow hrow
    exact getElem?_gutterRow ' ' (hwidth number hnumber) text 1

theorem getElem?_caretRow (width : Nat) {col : Nat} (hcol : 1 ≤ col) :
    (caretRow width col)[width + 4 + col]? = some '^' := by
  have hplace : width + 4 + col = width + 2 + (col + 2) := by omega
  have hempty : ([] : List Char).length ≤ width := Nat.zero_le width
  obtain ⟨k, rfl⟩ : ∃ k, col = k + 1 := ⟨col - 1, by omega⟩
  rw [hplace, caretRow, getElem?_gutterRow ' ' hempty]
  simp

theorem getElem?_lineRow {width line : Nat} (hwidth : (toString line).toList.length ≤ width)
    (text : List Char) {col : Nat} (hcol : 1 ≤ col) :
    (lineRow '>' width (text, line))[width + 4 + col]? = text[col - 1]? := by
  have hplace : width + 4 + col = width + 2 + (col + 2) := by omega
  obtain ⟨k, rfl⟩ : ∃ k, col = k + 1 := ⟨col - 1, by omega⟩
  rw [hplace, lineRow, getElem?_gutterRow '>' hwidth]
  simp

/-- Where `\n` is the only line end, every excerpt points at its place. -/
theorem pointsAt_of_newlines {source : String}
    (hends : ∀ c ∈ source.toList, Text.isLineEnd c = true → c = '\n') {line col : Nat}
    (hline : 1 ≤ line) (hcol : 1 ≤ col) (hle : line ≤ (delimited source).length)
    (hlast : (delimited source)[line - 1]? = some [] → line < (delimited source).length) :
    PointsAt source line col (around source line (some (col : Int))) := by
  have hlines : Text.linesFrom [] source.toList = Text.withoutEmptyEnd (delimited source) := by
    rw [Text.linesFrom_eq hends, Text.modifyHead_reverse_nil, delimited]
  obtain ⟨text, htext⟩ : ∃ text, (delimited source)[line - 1]? = some text :=
    ⟨_, List.getElem?_eq_getElem (by omega)⟩
  have hshown : (Text.withoutEmptyEnd (delimited source))[line - 1]? = some text := by
    refine Text.getElem?_withoutEmptyEnd htext fun hempty => ?_
    have := hlast (hempty ▸ htext)
    omega
  obtain ⟨hbound, -⟩ := List.getElem?_eq_some_iff.1 hshown
  have hwidth : ∀ number ≤ min (Text.withoutEmptyEnd (delimited source)).length (line + 2),
      (toString number).toList.length ≤
        numberWidth line (Text.withoutEmptyEnd (delimited source)).length :=
    fun number h => length_toString_le h
  refine ⟨_, text, htext, splitOn_around hlines hshown hline col, ?_, fun row hrow => ?_,
    getElem?_caretRow _ hcol, getElem?_lineRow (hwidth line (by omega)) text hcol⟩
  · rw [splitOn_around hlines hshown hline]
    exact countP_marked _ line col _ text
  · rw [splitOn_around hlines hshown hline] at hrow
    exact getElem?_gutter (by omega) hwidth hrow

/-- A line that is pointed at is shown whole, so it holds no line end. -/
theorem not_isLineEnd_of_pointsAt {source : String} {line col : Nat} (hline : 1 ≤ line)
    (h : PointsAt source line col (around source line (some (col : Int)))) {text : List Char}
    (htext : (delimited source)[line - 1]? = some text) :
    ∀ c ∈ text, Text.isLineEnd c = false := by
  obtain ⟨width, shown, hpoints⟩ := h
  obtain rfl : shown = text := Option.some.inj (hpoints.text_eq.symm.trans htext)
  intro c hc
  have hrow : lineRow '>' width (shown, line) ∈
      (around source line (some (col : Int))).toList.splitOn '\n' := by
    rw [hpoints.rows_eq]
    simp [rowsAround]
  exact not_isLineEnd_of_mem_around hline hrow c (by simp [lineRow, gutterRow, hc])

/-- An excerpt points at its place wherever in the source this is, an empty line at the end
apart, if and only if the source has no line end but `\n`. -/
theorem points_at_every_place_iff (source : String) :
    (∀ offset, let place := ({ rest := source.toList } : Cursor).skip offset
      ((delimited source)[place.line - 1]? = some [] →
        place.line < (delimited source).length) →
      PointsAt source place.line place.col
        (around source place.line (some (place.col : Int)))) ↔
    ∀ c ∈ source.toList, Text.isLineEnd c = true → c = '\n' := by
  constructor
  · intro h c hc hend
    by_contra hne
    -- The place of the line end itself: the line around it is cut there.
    obtain ⟨front, back, hsource⟩ := List.append_of_mem hc
    obtain ⟨text, htext, hmem⟩ := Text.exists_line_of_mem hne front back
    have hplace : (({ rest := source.toList } : Cursor).skip front.length).line =
        1 + front.count '\n' := by
      rw [Cursor.skip_line, hsource, List.take_left]
    have htext : (delimited source)[1 + front.count '\n' - 1]? = some text := by
      rwa [delimited, hsource, Nat.add_sub_cancel_left]
    have hpoints := h front.length
    simp only [hplace, htext] at hpoints
    have hnonempty : text ≠ [] := List.ne_nil_of_mem hmem
    have hplain := not_isLineEnd_of_pointsAt (by omega)
      (hpoints fun hempty => absurd (Option.some.inj hempty) hnonempty) htext c hmem
    rw [hend] at hplain
    cases hplain
  · intro hends offset place hlast
    have hline : place.line = 1 + (source.toList.take offset).count '\n' :=
      Cursor.skip_line _ offset
    have hcount : (source.toList.take offset).count '\n' ≤ source.toList.count '\n' :=
      (List.take_sublist offset source.toList).count_le '\n'
    have hlength : (delimited source).length = source.toList.count '\n' + 1 :=
      Text.length_splitOn source.toList
    exact pointsAt_of_newlines hends (by omega) (Cursor.skip_col_pos Nat.one_pos offset)
      (by omega) hlast

/-- A form feed in front of the line: the row that is marked shows what follows the form feed. -/
theorem not_pointsAt_form_feed :
    (({ rest := "a\x0cb\nc".toList } : Cursor).skip 4).line = 2 ∧
    (({ rest := "a\x0cb\nc".toList } : Cursor).skip 4).col = 1 ∧
    (delimited "a\x0cb\nc")[1]? = some ['c'] ∧
    ¬ PointsAt "a\x0cb\nc" 2 1 (around "a\x0cb\nc" 2 (some 1)) := by
  refine ⟨by decide, by decide, by decide, ?_⟩
  rintro ⟨width, text, h⟩
  have hrows : (around "a\x0cb\nc" 2 (some 1)).toList.splitOn '\n' =
      ["  1 | a".toList, "> 2 | b".toList, "    | ^".toList, "  3 | c".toList] := by
    decide +kernel
  have hmarked : ∀ row ∈ (around "a\x0cb\nc" 2 (some 1)).toList.splitOn '\n',
      row.head? = some '>' → row.getLast? = some 'b' := by
    rw [hrows]
    decide +kernel
  obtain rfl : ['c'] = text := Option.some.inj h.text_eq
  have hself : lineRow '>' width (['c'], 2) ∈
      (around "a\x0cb\nc" 2 (some 1)).toList.splitOn '\n' := by
    rw [h.rows_eq]
    simp [rowsAround]
  have hlast := hmarked _ hself rfl
  simp [lineRow, gutterRow] at hlast

end Excerpt

end TextShell
