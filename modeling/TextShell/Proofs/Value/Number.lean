import Mathlib
import TextShell.Value.Number

/-!
# Which texts are numbers

A text is asked for a number in two steps: its form is checked, and what has the form is
converted.  The conversion refuses some texts that have the form, and what these are is
said here without the conversion: integers of more than `digitLimit` digits, and the
words for infinity in which an `i` stands without its dot or as a capital with one.

## Main results

* `integerOfText_of_numeral` — a numeral is read as its integer, unless it is too long.
* `integerOfText_toString` — an integer that can be written is read back.
* `realOfText_of_form` — a text in the form of a real is one, unless it holds one of the
  two letters.
-/

namespace TextShell

namespace Decimal

/-! ## Digits -/

theorem digitsValue_toDigits (n : Nat) : digitsValue (Nat.toDigits 10 n) = n :=
  Nat.ofDigitChars_toDigits (by omega) (by omega)

theorem digitsValue_eq (ds : List Char) : digitsValue ds = Nat.ofDigitChars 10 ds 0 := rfl

theorem ofDigitChars_lt {ds : List Char} (h : ∀ c ∈ ds, c.isDigit = true) :
    Nat.ofDigitChars 10 ds 0 < 10 ^ ds.length := by
  induction ds using List.reverseRecOn with
  | nil => simp
  | append_singleton ds c ih =>
      obtain ⟨hds, hc⟩ := List.forall_mem_append.1 h
      have hdigit : 48 ≤ c.toNat ∧ c.toNat ≤ 57 := Char.isDigit_iff_toNat.1 (hc c (by simp))
      have hrest := ih hds
      rw [Nat.ofDigitChars_append, Nat.ofDigitChars_cons, List.length_append, pow_add]
      simp
      omega

theorem toList_toString (n : Int) :
    (toString n).toList =
      if 0 ≤ n then Nat.toDigits 10 n.natAbs else '-' :: Nat.toDigits 10 n.natAbs := by
  rw [Int.toString_eq_repr, Int.repr_eq_if]
  split
  · have habs : n.toNat = n.natAbs := by omega
    rw [Nat.toList_repr, habs]
  · have habs : (-n).toNat = n.natAbs := by omega
    rw [String.toList_append, Nat.toList_repr, habs]
    rfl

theorem lt_length_toDigits_iff (n : Nat) :
    digitLimit < (Nat.toDigits 10 n).length ↔ ¬ n < 10 ^ digitLimit := by
  rw [← Nat.not_le, Nat.length_toDigits_le_iff (by omega) (by decide)]

/-- The integers that have a text are those within the limit. -/
theorem integerText?_eq (n : Int) :
    integerText? n = if n.natAbs < 10 ^ digitLimit then some (toString n) else none := by
  simp only [integerText?, lt_length_toDigits_iff, ite_not]

/-! ## Numerals -/

/-- One decimal digit or more. -/
structure IsDigits (ds : List Char) : Prop where
  nonempty : ds ≠ []
  digits : ∀ c ∈ ds, c.isDigit = true

/-- The text writes the integer: digits, with or without a sign. -/
inductive Numeral : List Char → Int → Prop
  | plain {ds : List Char} (h : IsDigits ds) : Numeral ds (Nat.ofDigitChars 10 ds 0)
  | plus {ds : List Char} (h : IsDigits ds) : Numeral ('+' :: ds) (Nat.ofDigitChars 10 ds 0)
  | minus {ds : List Char} (h : IsDigits ds) : Numeral ('-' :: ds) (-Nat.ofDigitChars 10 ds 0)

/-- The number of digits in a text. -/
def digitCount (s : List Char) : Nat := s.countP Char.isDigit

theorem IsDigits.digitCount_eq {ds : List Char} (h : IsDigits ds) : digitCount ds = ds.length :=
  List.countP_eq_length.2 h.digits

theorem IsDigits.splitSign_eq {ds : List Char} (h : IsDigits ds) :
    splitSign ds = (false, ds) := by
  obtain ⟨c, rest, rfl⟩ := List.exists_cons_of_ne_nil h.nonempty
  have hc := h.digits c (by simp)
  unfold splitSign
  split
  · simp_all
  · simp_all
  · rfl

/-- A numeral is its sign and its digits. -/
theorem Numeral.exists_digits {s : List Char} {n : Int} (h : Numeral s n) :
    ∃ negative ds, IsDigits ds ∧ splitSign s = (negative, ds) ∧ digitCount s = ds.length ∧
      (∀ c ∈ s, c = '+' ∨ c = '-' ∨ c.isDigit = true) ∧
      n = if negative then -(Nat.ofDigitChars 10 ds 0 : Int) else Nat.ofDigitChars 10 ds 0 := by
  cases h with
  | plain h =>
      exact ⟨false, s, h, h.splitSign_eq, h.digitCount_eq, fun c hc => .inr (.inr (h.digits c hc)),
        by simp⟩
  | @plus ds h =>
      refine ⟨false, ds, h, rfl, ?_, ?_, by simp⟩
      · rw [← h.digitCount_eq]
        simp [digitCount]
      · exact List.forall_mem_cons.2 ⟨.inl rfl, fun c hc => .inr (.inr (h.digits c hc))⟩
  | @minus ds h =>
      refine ⟨true, ds, h, rfl, ?_, ?_, by simp⟩
      · rw [← h.digitCount_eq]
        simp [digitCount]
      · exact List.forall_mem_cons.2 ⟨.inr (.inl rfl), fun c hc => .inr (.inr (h.digits c hc))⟩

/-- The form of an integer is that of the numerals. -/
theorem isIntegerForm_iff {s : List Char} : isIntegerForm s = true ↔ ∃ n, Numeral s n := by
  have hform : ∀ ds : List Char, (!ds.isEmpty && ds.all Char.isDigit) = true ↔ IsDigits ds := by
    intro ds
    simp only [Bool.and_eq_true, Bool.not_eq_true', List.isEmpty_eq_false_iff, List.all_eq_true]
    exact ⟨fun h => ⟨h.1, h.2⟩, fun h => ⟨h.1, h.2⟩⟩
  unfold isIntegerForm
  constructor
  · intro h
    rw [hform] at h
    unfold splitSign at h
    split at h
    · exact ⟨_, .minus h⟩
    · exact ⟨_, .plus h⟩
    · exact ⟨_, .plain h⟩
  · rintro ⟨n, h⟩
    obtain ⟨negative, ds, hds, hsign, -⟩ := h.exists_digits
    rw [hsign, hform]
    exact hds

/-! ## Reading integers -/

theorem dropWhile_eq_self {P : Char → Bool} {s : List Char} (h : ∀ c ∈ s, P c = false) :
    s.dropWhile P = s := by
  cases s with
  | nil => rfl
  | cons c s => simp [h c (by simp)]

/-- Nothing in a numeral is changed before it is read. -/
theorem normalizeNumber_of_numeral {s : List Char}
    (h : ∀ c ∈ s, c = '+' ∨ c = '-' ∨ c.isDigit = true) : normalizeNumber s = s := by
  have hsolid : ∀ c ∈ s, isNumberBlank c = false := by
    intro c hc
    rcases h c hc with rfl | rfl | hdigit
    · decide
    · decide
    · have hbounds : 48 ≤ c.toNat ∧ c.toNat ≤ 57 := Char.isDigit_iff_toNat.1 hdigit
      simp [isNumberBlank, show c.toNat < 128 by omega]
      omega
  unfold normalizeNumber
  rw [dropWhile_eq_self hsolid, dropWhile_eq_self (by simpa using hsolid), List.reverse_reverse]
  refine (List.map_congr_left fun c hc => ?_).trans (List.map_id s)
  rcases h c hc with rfl | rfl | hdigit
  · rfl
  · rfl
  · have hbounds : 48 ≤ c.toNat ∧ c.toNat ≤ 57 := Char.isDigit_iff_toNat.1 hdigit
    have hcode : 48 + (c.toNat - 48) = c.toNat := by omega
    simp [Text.digitValue?, show c.toNat < 128 by omega, hdigit, hcode]

theorem takeDigits?_of_digits {ds : List Char} (h : ∀ c ∈ ds, c.isDigit = true)
    {previous : Char} (hprevious : previous ≠ '_') :
    takeDigits? previous ds = some (ds, []) := by
  induction ds generalizing previous with
  | nil => simp [takeDigits?, hprevious]
  | cons c ds ih =>
      obtain ⟨hc, hds⟩ := List.forall_mem_cons.1 h
      have hmark : c ≠ '_' := by
        rintro rfl
        simp at hc
      simp [takeDigits?, hmark, hc, ih hds hmark]

/-- A numeral is read as its integer, unless it has too many digits. -/
theorem readInteger_of_numeral {text : String} {n : Int} (h : Numeral text.toList n) :
    readInteger text =
      if digitLimit < digitCount text.toList then .tooLong (digitCount text.toList)
      else .integer n := by
  obtain ⟨negative, ds, hds, hsign, hcount, hchars, rfl⟩ := h.exists_digits
  unfold readInteger
  rw [normalizeNumber_of_numeral hchars, hsign, hcount]
  simp [takeDigits?_of_digits hds.digits, hds.nonempty, digitsValue_eq]

end Decimal

open Decimal

theorem integerOfText_of_numeral {text : String} {n : Int} (h : Numeral text.toList n) :
    integerOfText text =
      if digitLimit < digitCount text.toList then
        .error (.numeralTooLong (digitCount text.toList))
      else .ok (some n) := by
  unfold integerOfText
  rw [if_pos (isIntegerForm_iff.2 ⟨n, h⟩), readInteger_of_numeral h]
  by_cases hlong : digitLimit < digitCount text.toList
  · simp only [if_pos hlong]
  · simp only [if_neg hlong]

theorem integerOfText_of_not_form {text : String} (h : isIntegerForm text.toList = false) :
    integerOfText text = .ok none := by
  simp [integerOfText, h]

theorem numeral_toString (n : Int) : Numeral (toString n).toList n := by
  have hdigits : IsDigits (Nat.toDigits 10 n.natAbs) :=
    ⟨Nat.toDigits_ne_nil, fun c hc => Nat.isDigit_of_mem_toDigits (by omega) (by omega) hc⟩
  have hvalue : Nat.ofDigitChars 10 (Nat.toDigits 10 n.natAbs) 0 = n.natAbs :=
    Nat.ofDigitChars_toDigits (by omega) (by omega)
  rw [toList_toString]
  split
  · have hplain := Numeral.plain hdigits
    rwa [hvalue, Int.natAbs_of_nonneg ‹0 ≤ n›] at hplain
  · have hminus := Numeral.minus hdigits
    have habs : -(n.natAbs : Int) = n := by omega
    rwa [hvalue, habs] at hminus

/-- An integer that can be written is read back. -/
theorem integerOfText_toString {n : Int} (h : n.natAbs < 10 ^ digitLimit) :
    integerOfText (toString n) = .ok (some n) := by
  have hcount : digitCount (toString n).toList = (Nat.toDigits 10 n.natAbs).length := by
    have hall : (Nat.toDigits 10 n.natAbs).countP Char.isDigit =
        (Nat.toDigits 10 n.natAbs).length :=
      List.countP_eq_length.2 fun c hc => Nat.isDigit_of_mem_toDigits (by omega) (by omega) hc
    rw [toList_toString]
    split <;> simp [digitCount, hall]
  have hlength : (Nat.toDigits 10 n.natAbs).length ≤ digitLimit :=
    (Nat.length_toDigits_le_iff (by omega) (by decide)).2 h
  rw [integerOfText_of_numeral (numeral_toString n), hcount, if_neg (by omega)]

/-- The value writes the integer, with no more digits than are read. -/
structure Value.Writes (v : Value) (n : Int) : Prop where
  numeral : Numeral v.text.toList n
  short : digitCount v.text.toList ≤ digitLimit

theorem Value.Writes.asInteger_eq {v : Value} {n : Int} (h : v.Writes n) :
    v.asInteger = .ok (some n) := by
  rw [Value.asInteger, integerOfText_of_numeral h.numeral, if_neg (Nat.not_lt.2 h.short)]

theorem Value.Writes.natAbs_lt {v : Value} {n : Int} (h : v.Writes n) :
    n.natAbs < 10 ^ digitLimit := by
  obtain ⟨negative, ds, hds, -, hcount, -, rfl⟩ := h.numeral.exists_digits
  have hshort := hcount ▸ h.short
  have hvalue := ofDigitChars_lt hds.digits
  have hpow : 10 ^ ds.length ≤ 10 ^ digitLimit := Nat.pow_le_pow_right (by omega) hshort
  split <;> simp <;> omega

/-! ## Reading reals -/

namespace Decimal

/-- The numerals of reals are ASCII. -/
theorem toNat_lt_of_isDigit {c : Char} (h : c.isDigit = true) : c.toNat < 128 := by
  have hbounds : 48 ≤ c.toNat ∧ c.toNat ≤ 57 := Char.isDigit_iff_toNat.1 h
  omega

theorem mem_splitSign {s : List Char} {c : Char} (h : c ∈ s) :
    c = '+' ∨ c = '-' ∨ c ∈ (splitSign s).2 := by
  unfold splitSign
  split
  · exact .inr (List.mem_cons.1 h)
  · exact (List.mem_cons.1 h).imp_right .inr
  · exact .inr (.inr h)

theorem splitSign_suffix (s : List Char) : (splitSign s).2 <:+ s := by
  unfold splitSign
  split
  · exact List.suffix_cons ..
  · exact List.suffix_cons ..
  · exact List.suffix_refl _

theorem toNat_lt_of_scanExponent? {s : List Char} {e : Int} (h : scanExponent? s = some e) :
    ∀ c ∈ s, c.toNat < 128 := by
  cases s with
  | nil => simp
  | cons mark rest =>
      obtain ⟨hmark, hdigits⟩ : (mark = 'e' ∨ mark = 'E') ∧
          ∀ c ∈ (splitSign rest).2, c.isDigit = true := by
        simp only [scanExponent?, Option.ite_none_right_eq_some, Option.ite_none_left_eq_some] at h
        exact ⟨by simpa using h.1, (by simpa using h.2.1 : _ ∧ _).2⟩
      refine List.forall_mem_cons.2 ⟨?_, fun c hc => ?_⟩
      · rcases hmark with rfl | rfl <;> decide
      · rcases mem_splitSign hc with rfl | rfl | hbody
        · decide
        · decide
        · exact toNat_lt_of_isDigit (hdigits c hbody)

theorem toNat_lt_of_scanMagnitude? {s : List Char} (h : (scanMagnitude? s).isSome = true) :
    ∀ c ∈ s, c.toNat < 128 := by
  have hdigits : ∀ t : List Char, ∀ c ∈ t.takeWhile Char.isDigit, c.toNat < 128 :=
    fun t c hc => toNat_lt_of_isDigit (List.mem_takeWhile_imp hc)
  have hparts : ∀ t : List Char, (∀ c ∈ t.dropWhile Char.isDigit, c.toNat < 128) →
      ∀ c ∈ t, c.toNat < 128 := by
    intro t ht c hc
    rw [← List.takeWhile_append_dropWhile (p := Char.isDigit) (l := t)] at hc
    exact (List.mem_append.1 hc).elim (hdigits t c) (ht c)
  refine hparts s ?_
  unfold scanMagnitude? at h
  dsimp only at h
  split at h
  · next more hpoint =>
    rw [hpoint]
    refine List.forall_mem_cons.2 ⟨by decide, hparts more ?_⟩
    split at h
    · cases h
    · rw [Option.isSome_map] at h
      obtain ⟨e, he⟩ := Option.isSome_iff_exists.1 h
      exact toNat_lt_of_scanExponent? he
  · split at h
    · cases h
    · rw [Option.isSome_map] at h
      obtain ⟨e, he⟩ := Option.isSome_iff_exists.1 h
      exact toNat_lt_of_scanExponent? he

end Decimal

/-- A letter `i` without its dot, or a capital one with a dot. -/
def IsForeignI (c : Char) : Prop := c = 'ı' ∨ c = 'İ'

theorem lowerRuns_image :
    ∀ run ∈ Text.lowerRuns, 128 ≤ run.2.2.2 ∨ run = (8490, 8490, 1, 107) := by
  decide +kernel

/-- Beyond ASCII, no letter has a small form that is one of `i`, `n`, `f`, `t`, `y` and `a`. -/
theorem lowerRuns_apply {c : Char} (hc : 128 ≤ c.toNat) :
    Text.CaseRun.apply Text.lowerRuns c ∉ ['i', 'n', 'f', 't', 'y', 'a'] := by
  have hcode : ∀ l ∈ ['i', 'n', 'f', 't', 'y', 'a'], 0 < l.toNat ∧ l.toNat < 128 := by simp
  intro hmem
  unfold Text.CaseRun.apply at hmem
  split at hmem
  · next run hfind =>
    have hrun := List.mem_of_find?_eq_some hfind
    have hbounds := List.find?_some hfind
    rcases lowerRuns_image run hrun with himage | rfl
    · have hbad := hcode _ hmem
      rw [Char.toNat_ofNat] at hbad
      split at hbad <;> omega
    · have hkelvin : c.toNat = 8490 := by
        simp at hbounds
        omega
      rw [hkelvin] at hmem
      revert hmem
      decide
  · have := hcode c hmem
    omega

/-- What is taken for a letter of a special number is that letter in either case, or a
foreign `i`. -/
theorem toLower_of_foldNumberChar {c : Char}
    (h : foldNumberChar c ∈ ['i', 'n', 'f', 't', 'y', 'a']) (hplain : ¬ IsForeignI c) :
    c.toLower = foldNumberChar c := by
  have hdotless : c.toNat ≠ 0x131 := fun hcode =>
    hplain (.inl ((Char.ofNat_toNat c).symm.trans (congrArg Char.ofNat hcode)))
  have hdotted : c.toNat ≠ 0x130 := fun hcode =>
    hplain (.inr ((Char.ofNat_toNat c).symm.trans (congrArg Char.ofNat hcode)))
  simp only [foldNumberChar, if_neg hdotless, Text.foldChar] at h ⊢
  by_cases hascii : c.toNat < 128
  · rw [if_pos hascii]
  · rw [if_neg hascii, if_neg hdotted] at h
    exact absurd h (lowerRuns_apply (by omega))

/-- The words for infinity and for no number, in small letters. -/
def specialWords : List (List Char) := ["inf".toList, "infinity".toList, "nan".toList]

theorem isSpecialNumber_iff {s : List Char} :
    isSpecialNumber s = true ↔ s.map foldNumberChar ∈ specialWords := by
  simp only [isSpecialNumber, specialWords, Bool.or_eq_true, decide_eq_true_eq, List.mem_cons,
    List.not_mem_nil, or_false, or_assoc]

theorem scanReal?_isSome {s : List Char} :
    (scanReal? s).isSome = true ↔
      (splitSign s).2.map Char.toLower ∈ specialWords ∨
        (scanMagnitude? (splitSign s).2).isSome = true := by
  simp only [scanReal?, specialWords, Bool.or_eq_true, decide_eq_true_eq, List.mem_cons,
    List.not_mem_nil, or_false]
  split
  · next hinfinity => exact iff_of_true rfl (.inl (hinfinity.imp_right .inl))
  · next hfinite =>
    split
    · next hnone => exact iff_of_true rfl (.inl (.inr (.inr hnone)))
    · next hsome =>
      rw [Option.isSome_map]
      tauto

/-- The letters of the words are ASCII, and those that the case mappings leave alone. -/
theorem mem_specialWords :
    ∀ word ∈ specialWords, ∀ l ∈ word, l ∈ ['i', 'n', 'f', 't', 'y', 'a'] := by
  simp [specialWords]

theorem scanReal?_of_plain {s : List Char} (h : isRealForm s = true)
    (hplain : ∀ c ∈ s, ¬ IsForeignI c) : (scanReal? s).isSome = true := by
  rw [scanReal?_isSome]
  rcases Bool.or_eq_true_iff.1 h with hmagnitude | hspecial
  · exact .inr hmagnitude
  · refine .inl ?_
    rw [isSpecialNumber_iff] at hspecial
    have hsame : (splitSign s).2.map Char.toLower = (splitSign s).2.map foldNumberChar := by
      refine List.map_congr_left fun c hc => toLower_of_foldNumberChar ?_ (hplain c ?_)
      · exact mem_specialWords _ hspecial _ (List.mem_map_of_mem hc)
      · exact (splitSign_suffix s).subset hc
    rwa [hsame]

theorem scanReal?_of_foreign {s : List Char} {c : Char} (hc : c ∈ s) (hforeign : IsForeignI c) :
    scanReal? s = none := by
  have hbody : c ∈ (splitSign s).2 := by
    rcases mem_splitSign hc with rfl | rfl | hbody
    · simp [IsForeignI] at hforeign
    · simp [IsForeignI] at hforeign
    · exact hbody
  rw [← Option.not_isSome_iff_eq_none, scanReal?_isSome]
  rintro (hword | hmagnitude)
  · have hletter := mem_specialWords _ hword _ (List.mem_map_of_mem hbody)
    rcases hforeign with rfl | rfl <;> simp at hletter
  · have hascii := toNat_lt_of_scanMagnitude? hmagnitude c hbody
    rcases hforeign with rfl | rfl <;> simp at hascii

/-- A text in the form of a real is one, unless it holds a foreign `i`. -/
theorem realOfText_of_form {text : String} (h : isRealForm text.toList = true) :
    (∃ x, realOfText text = .ok (some x)) ∧ (∀ c ∈ text.toList, ¬ IsForeignI c) ∨
      realOfText text = .error (.notReal text) ∧ ∃ c ∈ text.toList, IsForeignI c := by
  unfold realOfText
  rw [if_pos h]
  by_cases hforeign : ∃ c ∈ text.toList, IsForeignI c
  · obtain ⟨c, hc, hi⟩ := hforeign
    rw [scanReal?_of_foreign hc hi]
    exact .inr ⟨rfl, c, hc, hi⟩
  · have hplain : ∀ c ∈ text.toList, ¬ IsForeignI c := fun c hc hi => hforeign ⟨c, hc, hi⟩
    obtain ⟨x, hx⟩ := Option.isSome_iff_exists.1 (scanReal?_of_plain h hplain)
    rw [hx]
    exact .inl ⟨⟨x, rfl⟩, hplain⟩

theorem realOfText_of_not_form {text : String} (h : isRealForm text.toList = false) :
    realOfText text = .ok none := by
  simp [realOfText, h]

end TextShell
