import TextShell.Proofs.Builtin.Calls
import TextShell.Proofs.Text.Split
import TextShell.Proofs.Value.Number

/-!
# The built-in functions on lists

A list has no form of its own: it is a text, and each function splits it, works on the
pieces and joins what is left.  The functions obey the laws of lists as long as joining
puts the separator nowhere but at the seams, so all rests on `Value.split_intercalate`.

## Main results

* `list_algebra` — `append`, `len`, `first` and `last` on the pieces of texts.
* `range_is_progression` — `range` gives the arithmetic progression below its bound.
-/

namespace TextShell

namespace Operation

/-! ## Pieces -/

theorem pieces_ne_nil (list : Value) {s : Value} (hs : s.text ≠ "") :
    pieces list (some s) ≠ [] := by
  have hsplit := Text.splitAt_ne_nil s.text.toList list.text.toList
  rw [← list.split_some hs] at hsplit
  exact fun hnil => hsplit (by rw [← List.map_nil, ← hnil]; rfl)

/-- A list that was put together has the pieces that it was put together from. -/
theorem pieces_join {separator : Option Value}
    (hborder : ∀ s ∈ separator, Text.Unbordered s.text.toList) {parts : List String}
    (hparts : ∀ part ∈ parts, Value.IsPiece (separator.map Value.text) part)
    (hne : ∀ s ∈ separator, s.text ≠ "" → parts ≠ []) :
    pieces (.truthy ((joiner separator).intercalate parts)) separator = parts := by
  refine Value.split_intercalate ?_ hparts ?_ 0
  · intro sep hsep
    obtain ⟨s, hs, rfl⟩ := Option.mem_map.1 hsep
    exact hborder s hs
  · intro sep hsep
    obtain ⟨s, hs, rfl⟩ := Option.mem_map.1 hsep
    exact hne s hs

theorem pieces_append {separator : Option Value}
    (hborder : ∀ s ∈ separator, Text.Unbordered s.text.toList) (left right : Value) :
    pieces (append left right separator) separator =
      pieces left separator ++ pieces right separator := by
  refine pieces_join hborder ?_ ?_
  · exact List.forall_mem_append.2 ⟨Value.isPiece_of_mem_split, Value.isPiece_of_mem_split⟩
  · rintro s rfl hs hnil
    exact pieces_ne_nil left hs (List.append_eq_nil_iff.1 hnil).1

/-! ## Parts -/

/-- Taking a part is refused for a size that the list does not have, and otherwise gives
the pieces that are selected.  Nothing at all is a part only where a text may have no
pieces. -/
theorem part_of_writes {select : Nat → List String → List String}
    (hsubset : ∀ n all, select n all ⊆ all)
    (hlength : ∀ n all, n ≤ all.length → (select n all).length = n) {separator : Option Value}
    (hborder : ∀ s ∈ separator, Text.Unbordered s.text.toList) (list : Value) {count : Value}
    {n : Int} (hcount : count.Writes n) :
    ∃ v, part select list count separator = .ok v ∧
      (v.isTruthy = false ↔ n < 0 ∨ (pieces list separator).length < n) ∧
      (0 ≤ n → n ≤ (pieces list separator).length → (∀ s ∈ separator, s.text ≠ "" → 1 ≤ n) →
        pieces v separator = select n.toNat (pieces list separator)) := by
  have hpart : part select list count separator =
      if 0 ≤ n ∧ n ≤ (pieces list separator).length then
        .ok (.truthy ((joiner separator).intercalate (select n.toNat (pieces list separator))))
      else .ok .falsy := by
    simp [part, hcount.asInteger_eq, bind, Except.bind, pure, Except.pure]
  rw [hpart]
  by_cases hsize : 0 ≤ n ∧ n ≤ (pieces list separator).length
  · rw [if_pos hsize]
    refine ⟨_, rfl, ?_, fun _ _ hone => ?_⟩
    · simp [Value.truthy, Value.isTruthy]
      omega
    · refine pieces_join hborder ?_ ?_
      · exact fun piece hpiece => Value.isPiece_of_mem_split piece (hsubset _ _ hpiece)
      · intro s hs hfilled hnil
        have hn := hone s hs hfilled
        have hlen := hlength n.toNat (pieces list separator) (by omega)
        rw [hnil, List.length_nil] at hlen
        omega
  · rw [if_neg hsize]
    refine ⟨_, rfl, ?_, fun hlow hhigh => absurd ⟨hlow, hhigh⟩ hsize⟩
    simp [Value.falsy, Value.isTruthy]
    omega

theorem first_of_writes {separator : Option Value}
    (hborder : ∀ s ∈ separator, Text.Unbordered s.text.toList) (list : Value) {count : Value}
    {n : Int} (hcount : count.Writes n) :
    ∃ v, first list count separator = .ok v ∧
      (v.isTruthy = false ↔ n < 0 ∨ (pieces list separator).length < n) ∧
      (0 ≤ n → n ≤ (pieces list separator).length → (∀ s ∈ separator, s.text ≠ "" → 1 ≤ n) →
        pieces v separator = (pieces list separator).take n.toNat) :=
  part_of_writes (fun n all => List.take_subset n all) (fun _ _ h => List.length_take_of_le h)
    hborder list hcount

theorem last_of_writes {separator : Option Value}
    (hborder : ∀ s ∈ separator, Text.Unbordered s.text.toList) (list : Value) {count : Value}
    {n : Int} (hcount : count.Writes n) :
    ∃ v, last list count separator = .ok v ∧
      (v.isTruthy = false ↔ n < 0 ∨ (pieces list separator).length < n) ∧
      (0 ≤ n → n ≤ (pieces list separator).length → (∀ s ∈ separator, s.text ≠ "" → 1 ≤ n) →
        pieces v separator = (pieces list separator).rtake n.toNat) :=
  part_of_writes (fun _ _ => List.drop_subset ..) (fun _ _ h => by simp; omega)
    hborder list hcount

end Operation

/-! ## The laws of lists -/

namespace Builtin

open Operation

theorem answers_len (list : Value) (separator : Option Value) :
    Builtin.len.Answers (list :: separator.toList)
      (.truthy (toString (pieces list separator).length)) := by
  cases separator <;> exact answers_of_pure rfl

theorem answers_append (left right : Value) (separator : Option Value) :
    Builtin.append.Answers (left :: right :: separator.toList)
      (Operation.append left right separator) := by
  cases separator <;> exact answers_of_pure rfl

theorem answers_first {list count v : Value} {separator : Option Value}
    (h : Operation.first list count separator = .ok v) :
    Builtin.first.Answers (list :: count :: separator.toList) v := by
  cases separator <;> exact answers_of_pure (congrArg some h)

theorem answers_last {list count v : Value} {separator : Option Value}
    (h : Operation.last list count separator = .ok v) :
    Builtin.last.Answers (list :: count :: separator.toList) v := by
  cases separator <;> exact answers_of_pure (congrArg some h)

/-- The functions on lists obey the laws of lists.  The separator is absent, empty or does
not overlap itself.  Then `append` joins the pieces of two lists, so that `len` adds; and
`first` and `last` fail exactly for a number that is negative or greater than `len`, and
otherwise give so many pieces of the front and of the end.  No pieces at all are given
only if the separator is absent or empty.  So a list is put together again from its two
parts. -/
theorem list_algebra {separator : Option Value}
    (hborder : ∀ s ∈ separator, Text.Unbordered s.text.toList) (l r : Value) :
    (∀ list : Value, Builtin.len.Answers (list :: separator.toList)
      (.truthy (toString (pieces list separator).length))) ∧
    (∃ both, Builtin.append.Answers (l :: r :: separator.toList) both ∧
      pieces both separator = pieces l separator ++ pieces r separator ∧
      Builtin.len.Answers (both :: separator.toList)
        (.truthy (toString ((pieces l separator).length + (pieces r separator).length)))) ∧
    ∀ (n : Int) (count : Value), count.Writes n →
      ∃ front back, Builtin.first.Answers (l :: count :: separator.toList) front ∧
        Builtin.last.Answers (l :: count :: separator.toList) back ∧
        (front.isTruthy = false ↔ n < 0 ∨ (pieces l separator).length < n) ∧
        (back.isTruthy = false ↔ n < 0 ∨ (pieces l separator).length < n) ∧
        (0 ≤ n → n ≤ (pieces l separator).length →
          (∀ s ∈ separator, s.text ≠ "" → 1 ≤ n) →
          pieces front separator = (pieces l separator).take n.toNat ∧
          pieces back separator = (pieces l separator).rtake n.toNat) ∧
        ∀ rest : Value, rest.Writes ((pieces l separator).length - n) →
          0 ≤ n → n ≤ (pieces l separator).length →
          (∀ s ∈ separator, s.text ≠ "" → 1 ≤ n ∧ n < (pieces l separator).length) →
          ∃ rear both, Builtin.last.Answers (l :: rest :: separator.toList) rear ∧
            Builtin.append.Answers (front :: rear :: separator.toList) both ∧
            pieces both separator = pieces l separator := by
  refine ⟨fun list => answers_len list separator, ?_, fun n count hcount => ?_⟩
  · have hpieces := pieces_append hborder l r
    refine ⟨_, answers_append l r separator, hpieces, ?_⟩
    rw [← List.length_append, ← hpieces]
    exact answers_len _ separator
  · obtain ⟨front, hfirst, hfalsy, htake⟩ := first_of_writes hborder l hcount
    obtain ⟨back, hlast, hfalsy', hrtake⟩ := last_of_writes hborder l hcount
    refine ⟨front, back, answers_first hfirst, answers_last hlast, hfalsy, hfalsy', ?_, ?_⟩
    · exact fun hlow hhigh hone => ⟨htake hlow hhigh hone, hrtake hlow hhigh hone⟩
    · intro rest hrest hlow hhigh hinside
      obtain ⟨rear, hrear, -, hdrop⟩ := last_of_writes hborder l hrest
      refine ⟨rear, _, answers_last hrear, answers_append front rear separator, ?_⟩
      have hfront := htake hlow hhigh fun s hs hfilled => (hinside s hs hfilled).1
      have hend := hdrop (by omega) (by omega) fun s hs hfilled => by
        have := hinside s hs hfilled
        omega
      have hsize : (pieces l separator).length -
          ((pieces l separator).length - n : Int).toNat = n.toNat := by omega
      rw [pieces_append hborder, hfront, hend, List.rtake, hsize, List.take_append_drop]

/-- A separator of two characters, and both parts of a list of three pieces. -/
theorem list_algebra_arrow :
    Text.Unbordered "=>".toList ∧ (⟨"2", 0⟩ : Value).Writes 2 ∧ (⟨"+1", 0⟩ : Value).Writes 1 ∧
      ∃ front rear both,
        Builtin.first.Answers [⟨"a=>=b=>", 0⟩, ⟨"2", 0⟩, ⟨"=>", 0⟩] front ∧
        Builtin.last.Answers [⟨"a=>=b=>", 0⟩, ⟨"+1", 0⟩, ⟨"=>", 0⟩] rear ∧
        Builtin.append.Answers [front, rear, ⟨"=>", 0⟩] both ∧
        pieces both (some ⟨"=>", 0⟩) = pieces ⟨"a=>=b=>", 0⟩ (some ⟨"=>", 0⟩) := by
  have hborder : Text.Unbordered "=>".toList := by decide
  have htwo : (⟨"2", 0⟩ : Value).Writes 2 := ⟨.plain ⟨by simp, by simp⟩, by decide⟩
  have hone : (⟨"+1", 0⟩ : Value).Writes 1 :=
    ⟨@Decimal.Numeral.plus ['1'] ⟨by simp, by simp⟩, by decide⟩
  have hsize : (pieces ⟨"a=>=b=>", 0⟩ (some ⟨"=>", 0⟩)).length = 3 := by decide +kernel
  obtain ⟨front, -, hfirst, -, -, -, -, hparts⟩ :=
    (@list_algebra (some ⟨"=>", 0⟩) (by simpa using hborder) ⟨"a=>=b=>", 0⟩ ⟨"", 0⟩).2.2 2 _ htwo
  rw [hsize] at hparts
  obtain ⟨rear, both, hlast, happend, hpieces⟩ :=
    hparts ⟨"+1", 0⟩ hone (by decide) (by decide) (by simp)
  exact ⟨hborder, htwo, hone, front, rear, both, hfirst, hlast, happend, hpieces⟩

end Builtin

/-! ## Progressions -/

namespace Operation

/-- As many terms are below the bound as are counted. -/
theorem lt_length_progression {step : Int} (hstep : 0 < step) (low high : Int) (k : Nat) :
    k < (progression low high step).length ↔ low + k * step < high := by
  have hdiv := Int.le_ediv_iff_mul_le (a := (k : Int) + 1) (b := high - low + step - 1) hstep
  have hexpand : ((k : Int) + 1) * step = k * step + step := by ring
  rw [progression, List.length_map, List.length_range]
  omega

/-- The terms of a progression are those below the bound. -/
theorem getElem?_progression {step : Int} (hstep : 0 < step) (low high : Int) (k : Nat) (n : Int) :
    (progression low high step)[k]? = some n ↔ n = low + k * step ∧ n < high := by
  have hterm : ∀ h : k < (progression low high step).length,
      (progression low high step)[k] = low + k * step := by
    intro h
    simp [progression, mul_comm]
  rw [List.getElem?_eq_some_iff]
  constructor
  · rintro ⟨hk, rfl⟩
    rw [hterm hk]
    exact ⟨rfl, (lt_length_progression hstep low high k).1 hk⟩
  · rintro ⟨rfl, hlt⟩
    have hk := (lt_length_progression hstep low high k).2 hlt
    exact ⟨hk, hterm hk⟩

theorem length_progression {step : Int} (hstep : 0 < step) (low high : Int) :
    (progression low high step).length = ⌈((high - low : Int) : ℚ) / step⌉₊ := by
  refine eq_of_forall_lt_iff fun k => ?_
  rw [lt_length_progression hstep, Nat.lt_ceil, lt_div_iff₀ (by exact_mod_cast hstep)]
  norm_cast
  omega

/-- The terms of a progression have no more digits than its bounds. -/
theorem natAbs_lt_of_mem_progression {low high step : Int} (hstep : 0 < step)
    (hlow : low.natAbs < 10 ^ Decimal.digitLimit) (hhigh : high.natAbs < 10 ^ Decimal.digitLimit) :
    ∀ n ∈ progression low high step, n.natAbs < 10 ^ Decimal.digitLimit := by
  intro n hn
  obtain ⟨k, hk⟩ := List.mem_iff_getElem?.1 hn
  obtain ⟨rfl, hlt⟩ := (getElem?_progression hstep low high k n).1 hk
  have hnonneg : 0 ≤ (k : Int) * step := Int.mul_nonneg (Int.natCast_nonneg k) hstep.le
  omega

/-- A numeral holds no blank. -/
theorem isPiece_of_numeral {text : String} {n : Int} (h : Decimal.Numeral text.toList n) :
    Value.IsPiece none text := by
  obtain ⟨negative, ds, hds, hsign, -, hchars, -⟩ := h.exists_digits
  refine ⟨fun hempty => ?_, fun c hc => ?_⟩
  · rw [hempty] at hsign
    exact hds.nonempty (Prod.mk.inj hsign).2.symm
  · rcases hchars c hc with rfl | rfl | hdigit
    · decide
    · decide
    · have hbounds : 48 ≤ c.toNat ∧ c.toNat ≤ 57 := Char.isDigit_iff_toNat.1 hdigit
      simp [Text.isBlank, show c.toNat < 128 by omega]
      omega

/-- Integers that are joined by spaces are the pieces of the list. -/
theorem split_integers (ns : List Int) (status : Int) :
    (⟨" ".intercalate (ns.map toString), status⟩ : Value).split none = ns.map toString := by
  refine @Value.split_intercalate none (by simp) (ns.map toString) ?_ (by simp) status
  exact List.forall_mem_map.2 fun n _ => isPiece_of_numeral (numeral_toString n)

theorem range_of_writes {low high step : Value} {a b d : Int} (ha : low.Writes a)
    (hb : high.Writes b) (hd : step.Writes d) (separator : String) :
    range low high step separator =
      if 0 < d then .ok (.truthy (separator.intercalate ((progression a b d).map toString)))
      else .ok .falsy := by
  simp [range, ha.asInteger_eq, hb.asInteger_eq, hd.asInteger_eq, bind, Except.bind, pure,
    Except.pure]

end Operation

open Operation in
/-- The function `range` gives exactly the arithmetic progression.  For bounds and a step
that are integers it fails exactly if the step is not positive; otherwise the pieces of
its answer are read as the terms from `a` on in steps of `d`, in order, as far as they are
below `b`. -/
theorem Builtin.range_is_progression {low high step : Value} {a b d : Int} (ha : low.Writes a)
    (hb : high.Writes b) (hd : step.Writes d) :
    ∃ v, Builtin.range.Answers [low, high, step] v ∧ (v.isTruthy = false ↔ d ≤ 0) ∧
      (0 < d → ∃ terms : List Int,
        (v.split none).map integerOfText = terms.map (fun n => .ok (some n)) ∧
        (∀ (k : Nat) (n : Int), terms[k]? = some n ↔ n = a + k * d ∧ n < b) ∧
        Builtin.len.Answers [v] (.truthy (toString
          (if b ≤ a then 0 else ⌈((b - a : Int) : ℚ) / d⌉₊)))) := by
  have hrange := range_of_writes ha hb hd " "
  by_cases hpos : 0 < d
  · rw [if_pos hpos] at hrange
    refine ⟨_, answers_of_pure (congrArg some hrange), ?_, fun _ => ?_⟩
    · simp [Value.truthy, Value.isTruthy, hpos]
    · have hsplit := split_integers (progression a b d) 0
      refine ⟨progression a b d, ?_, getElem?_progression hpos a b, ?_⟩
      · rw [Value.truthy, hsplit, List.map_map]
        refine List.map_congr_left fun n hn => integerOfText_toString ?_
        exact natAbs_lt_of_mem_progression hpos ha.natAbs_lt hb.natAbs_lt n hn
      · have hcount : (if b ≤ a then 0 else ⌈((b - a : Int) : ℚ) / d⌉₊) =
            (progression a b d).length := by
          rw [length_progression hpos]
          split
          · next hempty =>
            refine (Nat.ceil_eq_zero.2 (div_nonpos_of_nonpos_of_nonneg ?_ ?_)).symm
            · exact_mod_cast (by omega : b - a ≤ 0)
            · exact_mod_cast hpos.le
          · rfl
        have hlen := answers_len (.truthy (" ".intercalate ((progression a b d).map toString))) none
        rw [pieces, Option.map_none, Value.truthy, hsplit, List.length_map] at hlen
        rw [hcount]
        exact hlen
  · rw [if_neg hpos] at hrange
    refine ⟨_, answers_of_pure (congrArg some hrange), ?_, ?_⟩
    · simp [Value.falsy, Value.isTruthy]
      omega
    · exact fun h => absurd h hpos

/-- A progression from below zero whose last term is not next to the bound. -/
theorem Builtin.range_is_progression_signed :
    (⟨"-3", 0⟩ : Value).Writes (-3) ∧ (⟨"+11", 0⟩ : Value).Writes 11 ∧
      (⟨"04", 0⟩ : Value).Writes 4 ∧
      ∃ v, Builtin.range.Answers [⟨"-3", 0⟩, ⟨"+11", 0⟩, ⟨"04", 0⟩] v ∧
        ¬ v.isTruthy = false ∧
        ∃ terms : List Int,
          (v.split none).map integerOfText = terms.map (fun n => .ok (some n)) ∧
          ∀ (k : Nat) (n : Int), terms[k]? = some n ↔ n = -3 + k * 4 ∧ n < 11 := by
  have hlow : (⟨"-3", 0⟩ : Value).Writes (-3) :=
    ⟨@Decimal.Numeral.minus ['3'] ⟨by simp, by simp⟩, by decide⟩
  have hhigh : (⟨"+11", 0⟩ : Value).Writes 11 :=
    ⟨@Decimal.Numeral.plus ['1', '1'] ⟨by simp, by simp⟩, by decide⟩
  have hstep : (⟨"04", 0⟩ : Value).Writes 4 :=
    ⟨@Decimal.Numeral.plain ['0', '4'] ⟨by simp, by simp⟩, by decide⟩
  obtain ⟨v, hanswer, hfalsy, hterms⟩ := Builtin.range_is_progression hlow hhigh hstep
  obtain ⟨terms, hread, hall, -⟩ := hterms (by decide)
  exact ⟨hlow, hhigh, hstep, v, hanswer, fun h => absurd (hfalsy.1 h) (by decide), terms, hread,
    hall⟩

end TextShell
