import TextShell.Document.Json.Reader
import TextShell.Document.Json.Writer
import TextShell.Proofs.Program.Token
import TextShell.Proofs.Value.Number

/-!
# What is written in JSON is read back

The reader is followed over what the writer produces, on one line or on many. Each part of a text is
read in front of any rest that begins with a stop (`Takes`), because a number has no mark at its end: a
digit behind it would be read as one more of its own. The items of a list and the members of a mapping
are read by one rule, so they share one lemma, `elements_inside`, which asks of the layout only that it
puts blanks where blanks are skipped.

## Main results

* `takes_writeAt`: the text of plain data, at any level, is read as that data.
* `read?_writeAt`: so is the whole of a text.
* `native_of_read`: whatever is read holds only what JSON has.
* `Native.write_eq`: what JSON has is never refused.

Reals are not plain data here: whether they come back rests on how floating-point numbers round.
-/

namespace TextShell.Document

/-! ## Mappings under texts -/

theorem insert_text {fields : List (String × Document)} {key : String}
    (h : key ∉ fields.map Prod.fst) (held : Document) :
    insert (fields.map fun field => (.text field.1, field.2)) (.text key) held =
      (fields ++ [(key, held)]).map fun field => (.text field.1, field.2) := by
  have hnew : ∀ field ∈ fields, field.1 ≠ key := fun field hf heq =>
    h (heq ▸ List.mem_map_of_mem hf)
  have hany : (fields.any fun field => sameKey (.text field.1) (.text key)) = false := by
    simpa [sameKey] using hnew
  simp [insert, List.any_map, Function.comp_def, hany]

theorem foldl_insert {fields : List (String × Document)} (done : List (String × Document))
    (h : ((done ++ fields).map Prod.fst).Nodup) :
    (fields.map fun field => (Document.text field.1, field.2)).foldl
        (fun acc entry => insert acc entry.1 entry.2)
        (done.map fun field => (.text field.1, field.2)) =
      (done ++ fields).map fun field => (.text field.1, field.2) := by
  induction fields generalizing done with
  | nil => simp
  | cons field fields ih =>
    have hnew : field.1 ∉ done.map Prod.fst := by
      rw [List.map_append, List.nodup_append] at h
      exact fun hmem => h.2.2 field.1 hmem field.1 (by simp) rfl
    rw [List.map_cons, List.foldl_cons, insert_text hnew, ih]
    · simp
    · simpa using h

/-- Entries under texts of which no two are the same are the entries of their mapping. -/
theorem ofEntries_record {fields : List (String × Document)} (h : (fields.map Prod.fst).Nodup) :
    ofEntries (fields.map fun field => (.text field.1, field.2)) = record fields := by
  simpa [ofEntries, record] using foldl_insert [] h

end TextShell.Document

namespace TextShell.Json

open TextShell.Parser (length_le_flatMap_length)

/-! ## Where values begin and end -/

/-- The characters that end a value; none of them begins one. -/
def stops : List Char := [' ', '\t', '\n', '\r', ',', ']', '\x7d']

/-- The characters `w` are read as `a` wherever one of the stops, or nothing, is behind them. -/
structure Takes (reader : Reader α) (w : List Char) (a : α) : Prop where
  front : ∃ c rest, w = c :: rest ∧ c ∉ stops
  take : ∀ r, Front (· ∈ stops) r → reader (w ++ r) = some (a, r)

theorem front_of_stops {P : Char → Prop} {r : List Char} (hr : Front (· ∈ stops) r)
    (h : ∀ c ∈ stops, P c) : Front P r :=
  fun c hc => h c (hr c hc)

theorem mem_stops_of_isSpace {c : Char} (hc : isSpace c = true) : c ∈ stops := by
  simp only [isSpace, Bool.or_eq_true, beq_iff_eq] at hc
  rcases hc with ((rfl | rfl) | rfl) | rfl <;> simp [stops]

theorem skipSpace_append {w : List Char} (hw : ∀ c ∈ w, isSpace c = true) (s : List Char) :
    skipSpace (w ++ s) = skipSpace s :=
  List.dropWhile_append_of_pos hw

theorem skipSpace_cons {c : Char} (hc : isSpace c = false) (s : List Char) :
    skipSpace (c :: s) = c :: s := by
  simp [skipSpace, hc]

theorem skipSpace_front {c : Char} (hc : c ∉ stops) (s : List Char) :
    skipSpace (c :: s) = c :: s :=
  skipSpace_cons (Bool.eq_false_iff.2 fun h => hc (mem_stops_of_isSpace h)) s

/-! ## Texts -/

/-- The code point of a control character is read back. -/
theorem unicodeEscape_hex {c : Char} (hc : c.toNat < 0x20) (r : List Char) :
    unicodeEscape (Text.hex 4 c.toNat ++ r) = some (c, r) := by
  have hhex : ∀ n < 0x20, Text.hex 4 n = ['0', '0', (n / 16).digitChar, (n % 16).digitChar] := by
    decide
  have hvalue : ∀ k < 16, Text.hexValue? k.digitChar = some k := by decide
  have hzero : Text.hexValue? '0' = some 0 := by decide
  have hsum : c.toNat / 16 * 16 + c.toNat % 16 = c.toNat := by omega
  have hplain : isHighSurrogate c.toNat = false := by simp [isHighSurrogate]; omega
  rw [hhex _ hc]
  simp [unicodeEscape, hex4, hzero, hvalue (c.toNat / 16) (by omega),
    hvalue (c.toNat % 16) (by omega), hsum, hplain]

/-- A written character is read as itself. -/
theorem textBody_escapeChar (acc : List Char) (fuel : Nat) (c : Char) (r : List Char) :
    textBody acc (fuel + 1) (escapeChar c ++ r) = textBody (c :: acc) fuel r := by
  unfold escapeChar
  split_ifs with hmark hn hr ht hf hb hcontrol
  · rcases (by simpa using hmark : c = '"' ∨ c = '\\') with rfl | rfl <;> rfl
  · subst hn; rfl
  · subst hr; rfl
  · subst ht; rfl
  · subst hf; rfl
  · subst hb; rfl
  · simp [textBody, unicodeEscape_hex hcontrol]
  · have hplain : c ≠ '"' ∧ c ≠ '\\' := by simpa using hmark
    simp [textBody, hplain, hcontrol]

theorem escapeChar_ne_nil (c : Char) : escapeChar c ≠ [] := by
  unfold escapeChar
  split_ifs <;> simp

theorem textBody_flatMap (cs acc : List Char) (fuel : Nat) (r : List Char) (h : cs.length < fuel) :
    textBody acc fuel (cs.flatMap escapeChar ++ '"' :: r) =
      some (String.ofList (acc.reverse ++ cs), r) := by
  induction cs generalizing acc fuel with
  | nil =>
    obtain ⟨fuel, rfl⟩ : ∃ k, fuel = k + 1 := ⟨fuel - 1, by omega⟩
    simp [textBody]
  | cons c cs ih =>
    obtain ⟨fuel, rfl⟩ : ∃ k, fuel = k + 1 := ⟨fuel - 1, by simp at h; omega⟩
    rw [List.flatMap_cons, List.append_assoc, textBody_escapeChar, ih _ _ (by simpa using h)]
    simp

/-- A text is read back from behind its opening quote. -/
theorem text_flatMap (s : String) (r : List Char) :
    text (s.toList.flatMap escapeChar ++ '"' :: r) = some (s, r) := by
  have hlength := length_le_flatMap_length escapeChar fun c (_ : c ∈ s.toList) => escapeChar_ne_nil c
  rw [text, textBody_flatMap]
  · simp
  · simp only [List.length_append, List.length_cons]
    omega

theorem toList_quoted (s : String) :
    (quoted s).toList = '"' :: (s.toList.flatMap escapeChar ++ ['"']) := by
  simp [quoted]

/-! ## Numbers -/

theorem takeFraction_of_stops {r : List Char} (hr : Front (· ∈ stops) r) :
    takeFraction r = ([], r) := by
  unfold takeFraction
  split
  · simp [stops] at hr
  · rfl

theorem takeExponent_of_stops {r : List Char} (hr : Front (· ∈ stops) r) :
    takeExponent r = (none, r) := by
  cases r with
  | nil => rfl
  | cons c r =>
    have hletter : ∀ c ∈ stops, (c = 'e' || c = 'E') = false := by simp [stops]
    simp [takeExponent, hletter c ((front_cons _ c r).1 hr)]

/-- No number but zero is written with a zero in front. -/
theorem eq_zero_of_toDigits {n : Nat} {ds : List Char} (h : Nat.toDigits 10 n = '0' :: ds) :
    n = 0 := by
  induction n using Nat.strong_induction_on generalizing ds with
  | _ n ih =>
    by_cases hn : n < 10
    · rw [Nat.toDigits_of_lt_base hn] at h
      exact Nat.digitChar_eq_zero.1 (List.cons.inj h).1
    · rw [Nat.toDigits_of_base_le (by omega) (by omega)] at h
      obtain ⟨d, rest, hrest⟩ := List.exists_cons_of_ne_nil (@Nat.toDigits_ne_nil (n / 10) 10)
      rw [hrest] at h
      have hd : d = '0' := (List.cons.inj h).1
      have := ih (n / 10) (by omega) (hd ▸ hrest)
      omega

theorem exists_digit_cons (n : Nat) : ∃ d ds, Nat.toDigits 10 n = d :: ds ∧ d.isDigit = true := by
  obtain ⟨d, ds, hds⟩ := List.exists_cons_of_ne_nil (@Nat.toDigits_ne_nil n 10)
  have hmem : d ∈ Nat.toDigits 10 n := by simp [hds]
  exact ⟨d, ds, hds, Nat.isDigit_of_mem_toDigits (by omega) (by omega) hmem⟩

/-- The digits of an integer are taken whole, behind a minus as well, unless there are too many. -/
theorem number_toDigits (n : Nat) {r : List Char} (hr : Front (· ∈ stops) r) :
    number (Nat.toDigits 10 n ++ r) =
        (if n < 10 ^ Decimal.digitLimit then some (.integer n, r) else none) ∧
      number ('-' :: (Nat.toDigits 10 n ++ r)) =
        if n < 10 ^ Decimal.digitLimit then some (.integer (-n), r) else none := by
  have hlength := Decimal.lt_length_toDigits_iff n
  have hvalue := Decimal.digitsValue_toDigits n
  have htake : (Nat.toDigits 10 n ++ r).takeWhile Char.isDigit = Nat.toDigits 10 n :=
    takeWhile_append_of_front
      (fun c hc => Nat.isDigit_of_mem_toDigits (by omega) (by omega) hc)
      (front_of_stops hr (by simp [stops]))
  obtain ⟨d, ds, hds, hdigit⟩ := exists_digit_cons n
  have hfraction := takeFraction_of_stops hr
  have hexponent := takeExponent_of_stops hr
  -- Behind a zero the reader looks for no more digits, so zero is a case of its own.
  by_cases hd : d = '0'
  · subst hd
    obtain rfl := eq_zero_of_toDigits hds
    have hpos : 0 < 10 ^ Decimal.digitLimit := by positivity
    have hone : ¬ Decimal.digitLimit < 1 := by decide
    simp [number, hfraction, hexponent, Decimal.digitsValue, hpos, hone]
  · have hminus : d ≠ '-' := by
      rintro rfl
      simp at hdigit
    rw [hds] at hlength hvalue htake ⊢
    rw [List.cons_append] at htake ⊢
    rw [List.length_cons] at hlength
    by_cases hn : n < 10 ^ Decimal.digitLimit
    · have hshort : ¬ Decimal.digitLimit < ds.length + 1 := fun hlong => hlength.1 hlong hn
      simp [number, hfraction, hexponent, hvalue, htake, hd, hminus, hn, hshort]
    · simp [number, hfraction, hexponent, htake, hd, hminus, hn, hlength.2 hn]

/-- What begins with a digit, or with a minus in front of one, is a number or nothing. -/
theorem value_of_digit {c : Char} (hc : c.isDigit = true) (fuel : Nat) (s : List Char) :
    value (fuel + 1) (c :: s) = number (c :: s) ∧
      value (fuel + 1) ('-' :: c :: s) = number ('-' :: c :: s) := by
  have hne : ∀ l ∈ ['n', 't', 'f', 'N', 'I', '-', '"', '[', '\x7b'], l ≠ c ∧ c ≠ l := by
    intro l hl
    have hdigit : l.isDigit = false := by revert l; simp
    constructor <;> rintro rfl <;> simp [hc] at hdigit
  simp only [List.forall_mem_cons] at hne
  simp [value, word, wordValues, Text.dropStart?, hne]

/-! ## Values that hold no others -/

theorem takes_integer {n : Int} (hn : n.natAbs < 10 ^ Decimal.digitLimit) (fuel : Nat) :
    Takes (value (fuel + 1)) (toString n).toList (.integer n) := by
  obtain ⟨d, ds, hds, hd⟩ := exists_digit_cons n.natAbs
  have hstop : d ∉ stops := by
    intro hmem
    have hdigit : ∀ c ∈ stops, c.isDigit = false := by simp [stops]
    exact absurd hd (by simp [hdigit d hmem])
  rw [Decimal.toList_toString]
  by_cases h0 : 0 ≤ n
  · rw [if_pos h0]
    refine ⟨⟨d, ds, hds, hstop⟩, fun r hr => ?_⟩
    have hnumber := (number_toDigits n.natAbs hr).1
    rw [if_pos hn, hds, List.cons_append] at hnumber
    rw [hds, List.cons_append, (value_of_digit hd fuel _).1, hnumber, Int.natAbs_of_nonneg h0]
  · rw [if_neg h0]
    refine ⟨⟨'-', _, rfl, by simp [stops]⟩, fun r hr => ?_⟩
    have hnumber := (number_toDigits n.natAbs hr).2
    have habs : -(n.natAbs : Int) = n := by omega
    rw [List.cons_append]
    rw [if_pos hn, hds, List.cons_append] at hnumber
    rw [hds, List.cons_append, (value_of_digit hd fuel _).2, hnumber, habs]

theorem takes_text (s : String) (fuel : Nat) :
    Takes (value (fuel + 1)) (quoted s).toList (.text s) := by
  rw [toList_quoted]
  refine ⟨⟨_, _, rfl, by simp [stops]⟩, fun r _ => ?_⟩
  simp [value, text_flatMap]

theorem takes_null (fuel : Nat) : Takes (value (fuel + 1)) "null".toList .null :=
  ⟨⟨'n', ['u', 'l', 'l'], rfl, by simp [stops]⟩, fun _ _ => rfl⟩

theorem takes_bool (b : Bool) (fuel : Nat) :
    Takes (value (fuel + 1)) (if b then "true" else "false").toList (.bool b) := by
  cases b with
  | false => exact ⟨⟨'f', ['a', 'l', 's', 'e'], rfl, by simp [stops]⟩, fun _ _ => rfl⟩
  | true => exact ⟨⟨'t', ['r', 'u', 'e'], rfl, by simp [stops]⟩, fun _ _ => rfl⟩

/-! ## Elements in their layout -/

/-- Blanks stand behind the opening mark, before the closing one, and behind each comma. -/
structure Layout.Spaced (layout : Layout) : Prop where
  first : ∀ c ∈ layout.first.toList, isSpace c = true
  between : ∃ blanks, layout.between.toList = ',' :: blanks ∧ ∀ c ∈ blanks, isSpace c = true
  last : ∀ c ∈ layout.last.toList, isSpace c = true

theorem Layout.spaced_at (pretty : Bool) (level : Nat) : (Layout.at pretty level).Spaced := by
  cases pretty with
  | false =>
    refine ⟨?_, ⟨[' '], ?_, ?_⟩, ?_⟩
    · simp [Layout.at]
    · simp [Layout.at]
    · simp [isSpace]
    · simp [Layout.at]
  | true =>
    have hblanks : ∀ n, ∀ c ∈ '\n' :: List.replicate n ' ', isSpace c = true := by
      intro n c hc
      rcases List.mem_cons.1 hc with rfl | hc
      · rfl
      · rw [List.eq_of_mem_replicate hc]
        rfl
    refine ⟨?_, ⟨'\n' :: List.replicate (2 * (level + 1)) ' ', ?_, hblanks _⟩, ?_⟩
    · simpa [Layout.at] using hblanks (2 * (level + 1))
    · simp [Layout.at]
    · simpa [Layout.at] using hblanks (2 * level)

/-- What stands behind an element: the others, each behind a comma, and the blanks before the closing
mark. -/
def Layout.behind (layout : Layout) : List String → List Char
  | [] => layout.last.toList
  | item :: rest => layout.between.toList ++ (item.toList ++ layout.behind rest)

/-- What stands between the marks. -/
def Layout.inside (layout : Layout) : List String → List Char
  | [] => []
  | item :: rest => layout.first.toList ++ (item.toList ++ layout.behind rest)

theorem Layout.intercalate_append_last (layout : Layout) (item : String) (rest : List String) :
    (layout.between.intercalate (item :: rest)).toList ++ layout.last.toList =
      item.toList ++ layout.behind rest := by
  induction rest generalizing item with
  | nil => simp [Layout.behind]
  | cons next rest ih =>
    rw [Layout.behind, ← ih next]
    simp [String.toList_intercalate]

theorem Layout.toList_enclose (layout : Layout) (opening closing : String) (items : List String) :
    (layout.enclose opening closing items).toList =
      opening.toList ++ (layout.inside items ++ closing.toList) := by
  cases items with
  | nil => simp [Layout.enclose, Layout.inside]
  | cons item rest =>
    have hitems := layout.intercalate_append_last item rest
    simp only [Layout.enclose, List.isEmpty_cons, Bool.false_eq_true, if_false,
      String.toList_append]
    rw [List.append_assoc (_ ++ _) _ layout.last.toList, hitems]
    simp [Layout.inside]

theorem Layout.length_le_behind {layout : Layout} (hlayout : layout.Spaced) (items : List String) :
    items.length ≤ (layout.behind items).length := by
  obtain ⟨blanks, hbetween, -⟩ := hlayout.between
  induction items with
  | nil => simp
  | cons item rest ih =>
    simp only [Layout.behind, hbetween, List.length_append, List.length_cons]
    omega

theorem Layout.length_le_behind_of_mem (layout : Layout) {items : List String} {item : String}
    (h : item ∈ items) : item.toList.length ≤ (layout.behind items).length := by
  induction items with
  | nil => simp at h
  | cons next rest ih =>
    simp only [Layout.behind, List.length_append]
    rcases List.mem_cons.1 h with rfl | hrest
    · omega
    · have := ih hrest
      omega

theorem Layout.length_le_inside (layout : Layout) {items : List String} {item : String}
    (h : item ∈ items) : item.toList.length ≤ (layout.inside items).length := by
  cases items with
  | nil => simp at h
  | cons next rest =>
    simp only [Layout.inside, List.length_append]
    rcases List.mem_cons.1 h with rfl | hrest
    · omega
    · have := layout.length_le_behind_of_mem hrest
      omega

section Elements

variable {α β : Type} {reader : Reader α} {closing : Char} {layout : Layout} {text : β → String}
  {meaning : β → α}

/-- Behind an element stands a stop: a comma, a blank or the closing mark. -/
theorem front_behind (hclosing : closing ∈ stops) (hlayout : layout.Spaced) (items : List String)
    (r : List Char) : Front (· ∈ stops) (layout.behind items ++ closing :: r) := by
  cases items with
  | nil =>
    cases hlast : layout.last.toList with
    | nil => simpa [Layout.behind, hlast] using hclosing
    | cons c rest =>
      have hspace : isSpace c = true := hlayout.last c (by simp [hlast])
      simpa [Layout.behind, hlast] using mem_stops_of_isSpace hspace
  | cons item rest =>
    obtain ⟨blanks, hbetween, -⟩ := hlayout.between
    simp [Layout.behind, hbetween, stops]

/-- An element with blanks in front of it is read from its first character on. -/
theorem Takes.skipSpace_eq {w : List Char} {a : α} (h : Takes reader w a) {blanks : List Char}
    (hblanks : ∀ c ∈ blanks, isSpace c = true) (s : List Char) :
    skipSpace (blanks ++ (w ++ s)) = w ++ s := by
  obtain ⟨c, rest, rfl, hc⟩ := h.front
  rw [skipSpace_append hblanks, List.cons_append, skipSpace_front hc]

-- The closing mark ends an element, and neither a blank nor a comma is taken for it.
variable (hstop : closing ∈ stops) (hspace : isSpace closing = false) (hcomma : closing ≠ ',')
include hstop hspace hcomma

theorem elementsRest_behind (hlayout : layout.Spaced) {xs : List β}
    (h : ∀ x ∈ xs, Takes reader (text x).toList (meaning x)) (found : List α) {fuel : Nat}
    (hfuel : xs.length < fuel) (r : List Char) :
    elementsRest reader closing found fuel (layout.behind (xs.map text) ++ closing :: r) =
      some (found.reverse ++ xs.map meaning, r) := by
  induction xs generalizing found fuel with
  | nil =>
    obtain ⟨fuel, rfl⟩ : ∃ k, fuel = k + 1 := ⟨fuel - 1, by simp at hfuel; omega⟩
    simp [elementsRest, Layout.behind, skipSpace_append hlayout.last, skipSpace_cons hspace]
  | cons x xs ih =>
    obtain ⟨fuel, rfl⟩ : ∃ k, fuel = k + 1 := ⟨fuel - 1, by simp at hfuel; omega⟩
    obtain ⟨blanks, hbetween, hblanks⟩ := hlayout.between
    have hx : Takes reader (text x).toList (meaning x) := h x (by simp)
    have hrest := ih (fun y hy => h y (by simp [hy])) (meaning x :: found)
      (by simpa using hfuel : xs.length < fuel)
    have hread := hx.take _ (front_behind hstop hlayout (xs.map text) r)
    have hskip : ∀ s, skipSpace (',' :: s) = ',' :: s := skipSpace_cons rfl
    simp [elementsRest, Layout.behind, hbetween, hskip, hcomma.symm, hx.skipSpace_eq hblanks, hread,
      hrest]

/-- Elements in their layout are read one by one. -/
theorem elements_inside (hlayout : layout.Spaced) {xs : List β}
    (h : ∀ x ∈ xs, Takes reader (text x).toList (meaning x)) (r : List Char) :
    elements reader closing (layout.inside (xs.map text) ++ closing :: r) =
      some (xs.map meaning, r) := by
  cases xs with
  | nil => simp [elements, Layout.inside, skipSpace_cons hspace]
  | cons x xs =>
    have hx : Takes reader (text x).toList (meaning x) := h x (by simp)
    have hread := hx.take _ (front_behind hstop hlayout (xs.map text) r)
    have hskip := hx.skipSpace_eq hlayout.first (layout.behind (xs.map text) ++ closing :: r)
    have hlength := Layout.length_le_behind hlayout (xs.map text)
    rw [List.length_map] at hlength
    obtain ⟨c, rest, hw, hc⟩ := hx.front
    have hfuel : xs.length < (rest ++ (layout.behind (xs.map text) ++ closing :: r)).length + 2 := by
      simp only [List.length_append, List.length_cons]
      omega
    have hrest := elementsRest_behind hstop hspace hcomma hlayout
      (fun y hy => h y (List.mem_cons_of_mem x hy)) [meaning x] hfuel r
    have hne : c ≠ closing := fun heq => hc (heq ▸ hstop)
    rw [hw, List.cons_append] at hread hskip
    simp only [elements, List.map_cons, Layout.inside, hw, List.append_assoc, List.cons_append,
      hskip, hne, if_false, hread]
    exact hrest

end Elements

/-! ## Members -/

theorem takes_member {fuel : Nat} {w : List Char} {d : Document} (h : Takes (value fuel) w d)
    (key : String) :
    Takes (member (value fuel)) ((quoted key).toList ++ (':' :: ' ' :: w)) (.text key, d) := by
  rw [toList_quoted]
  refine ⟨⟨_, _, rfl, by simp [stops]⟩, fun r hr => ?_⟩
  have hblank : ∀ c ∈ [' '], isSpace c = true := by simp [isSpace]
  have hcolon : skipSpace (':' :: ' ' :: (w ++ r)) = ':' :: ' ' :: (w ++ r) := skipSpace_cons rfl _
  have hskip : skipSpace (' ' :: (w ++ r)) = w ++ r := h.skipSpace_eq hblank r
  simp [member, text_flatMap, hcolon, hskip, h.take r hr]

/-! ## Plain data -/

/-- Data that JSON keeps: words, integers that are not too long, texts, lists, and mappings under
texts of which no two are the same. -/
inductive Plain : Document → Prop
  | null : Plain .null
  | bool (b : Bool) : Plain (.bool b)
  | integer {n : Int} (h : n.natAbs < 10 ^ Decimal.digitLimit) : Plain (.integer n)
  | text (s : String) : Plain (.text s)
  | list {items : List Document} (h : ∀ item ∈ items, Plain item) : Plain (.list items)
  | record {fields : List (String × Document)} (hkeys : (fields.map Prod.fst).Nodup)
      (h : ∀ field ∈ fields, Plain field.2) : Plain (.record fields)

theorem writeItems_eq_map (pretty : Bool) (level : Nat) (items : List Document) :
    writeItems pretty level items = items.map (writeAt pretty level) := by
  induction items with
  | nil => rfl
  | cons item items ih => simp [writeItems, ih]

/-- A member as it is written. -/
def memberText (pretty : Bool) (level : Nat) (field : String × Document) : String :=
  quoted field.1 ++ ": " ++ writeAt pretty level field.2

theorem writeEntries_eq_map (pretty : Bool) (level : Nat) (fields : List (String × Document)) :
    writeEntries pretty level (fields.map fun field => (.text field.1, field.2)) =
      fields.map (memberText pretty level) := by
  induction fields with
  | nil => rfl
  | cons field fields ih => simp [writeEntries, memberText, keyText, ih]

theorem Layout.length_lt_enclose (layout : Layout) {items : List String} {item : String}
    (h : item ∈ items) {opening : String} (hopening : 0 < opening.toList.length) (closing : String) :
    item.toList.length < (layout.enclose opening closing items).toList.length := by
  have hinside := layout.length_le_inside h
  simp only [layout.toList_enclose, List.length_append]
  omega

theorem takes_list {items : List Document} (pretty : Bool) (level : Nat) {fuel : Nat}
    (h : ∀ item ∈ items, Takes (value fuel) (writeAt pretty (level + 1) item).toList item) :
    Takes (value (fuel + 1)) (writeAt pretty level (.list items)).toList (.list items) := by
  rw [writeAt, writeItems_eq_map, Layout.toList_enclose]
  refine ⟨⟨'[', _, rfl, by simp [stops]⟩, fun r _ => ?_⟩
  have hread : elements (value fuel) ']'
      ((Layout.at pretty level).inside (items.map (writeAt pretty (level + 1))) ++ ']' :: r) =
        some (items.map id, r) :=
    elements_inside (by simp [stops]) (by decide) (by decide) (Layout.spaced_at pretty level) h r
  simpa [value] using hread

theorem takes_record {fields : List (String × Document)} (hkeys : (fields.map Prod.fst).Nodup)
    (pretty : Bool) (level : Nat) {fuel : Nat}
    (h : ∀ field ∈ fields, Takes (value fuel) (writeAt pretty (level + 1) field.2).toList field.2) :
    Takes (value (fuel + 1)) (writeAt pretty level (.record fields)).toList (.record fields) := by
  have hmember : ∀ field ∈ fields,
      Takes (member (value fuel)) (memberText pretty (level + 1) field).toList
        (.text field.1, field.2) := by
    intro field hfield
    simpa [memberText] using takes_member (h field hfield) field.1
  rw [Document.record, writeAt, writeEntries_eq_map, Layout.toList_enclose, ← Document.record]
  refine ⟨⟨'\x7b', _, rfl, by simp [stops]⟩, fun r _ => ?_⟩
  have hread : elements (member (value fuel)) '\x7d'
      ((Layout.at pretty level).inside (fields.map (memberText pretty (level + 1))) ++ '\x7d' :: r) =
        some (fields.map fun field => (.text field.1, field.2), r) :=
    elements_inside (by simp [stops]) (by decide) (by decide) (Layout.spaced_at pretty level)
      hmember r
  rw [← Document.ofEntries_record hkeys]
  simp [value, hread]

/-- What is written of plain data is read as that data. -/
theorem takes_writeAt {d : Document} (hd : Plain d) (pretty : Bool) (level : Nat) {fuel : Nat}
    (hfuel : (writeAt pretty level d).toList.length ≤ fuel) :
    Takes (value (fuel + 1)) (writeAt pretty level d).toList d := by
  -- Each item is shorter than the text that holds it, so one less of fuel is enough for it.
  induction hd generalizing level fuel with
  | null => exact takes_null fuel
  | bool b => exact takes_bool b fuel
  | integer h => exact takes_integer h fuel
  | text s => exact takes_text s fuel
  | @list items h ih =>
    refine takes_list pretty level fun item hitem => ?_
    have hlength : (writeAt pretty (level + 1) item).toList.length <
        (writeAt pretty level (.list items)).toList.length := by
      rw [writeAt, writeItems_eq_map]
      exact Layout.length_lt_enclose _ (List.mem_map_of_mem hitem) (by simp) _
    obtain ⟨k, rfl⟩ : ∃ k, fuel = k + 1 := ⟨fuel - 1, by omega⟩
    exact ih item hitem (level + 1) (by omega)
  | @record fields hkeys h ih =>
    refine takes_record hkeys pretty level fun field hfield => ?_
    have hlength : (memberText pretty (level + 1) field).toList.length <
        (writeAt pretty level (.record fields)).toList.length := by
      rw [Document.record, writeAt, writeEntries_eq_map]
      exact Layout.length_lt_enclose _ (List.mem_map_of_mem hfield) (by simp) _
    have hheld : (writeAt pretty (level + 1) field.2).toList.length ≤
        (memberText pretty (level + 1) field).toList.length := by
      simp only [memberText, String.toList_append, List.length_append]
      omega
    obtain ⟨k, rfl⟩ : ∃ k, fuel = k + 1 := ⟨fuel - 1, by omega⟩
    exact ih field hfield (level + 1) (by omega)

/-- Plain data is read back from its text, on one line or on many. -/
theorem read?_writeAt {d : Document} (hd : Plain d) (pretty : Bool) :
    read? (writeAt pretty 0 d) = some d := by
  have htakes := takes_writeAt hd pretty 0 le_rfl
  have hread := htakes.take [] (front_nil _)
  have hskip : skipSpace ([] ++ ((writeAt pretty 0 d).toList ++ [])) = _ :=
    htakes.skipSpace_eq (by simp) []
  have hend : skipSpace [] = [] := rfl
  simp only [List.append_nil, List.nil_append] at hread hskip
  simp [read?, hskip, hread, hend]

/-- The document holds only what JSON has: no integer that is too wide, and only texts as keys. -/
inductive Native : Document → Prop
  | null : Native .null
  | bool (b : Bool) : Native (.bool b)
  | integer {n : Int} (h : n.natAbs < 10 ^ Decimal.digitLimit) : Native (.integer n)
  | real (x : Float) : Native (.real x)
  | text (s : String) : Native (.text s)
  | list {items : List Document} (h : ∀ item ∈ items, Native item) : Native (.list items)
  | mapping {entries : List (Document × Document)}
      (hkeys : ∀ entry ∈ entries, ∃ key, entry.1 = .text key)
      (h : ∀ entry ∈ entries, Native entry.2) : Native (.mapping entries)

theorem Plain.native {d : Document} (hd : Plain d) : Native d := by
  induction hd with
  | null => exact .null
  | bool b => exact .bool b
  | integer h => exact .integer h
  | text s => exact .text s
  | list _ ih => exact .list ih
  | record _ _ ih =>
    refine .mapping (fun entry hentry => ?_) fun entry hentry => ?_ <;>
      obtain ⟨field, hfield, rfl⟩ := List.mem_map.1 hentry
    · exact ⟨_, rfl⟩
    · exact ih field hfield

theorem itemFault?_eq_none {items : List Document} (h : ∀ item ∈ items, fault? item = none) :
    itemFault? items = none := by
  induction items with
  | nil => rfl
  | cons item items ih =>
    rw [itemFault?, h item (by simp), ih fun other hother => h other (by simp [hother])]
    rfl

theorem entryFault?_eq_none {entries : List (Document × Document)}
    (hkeys : ∀ entry ∈ entries, ∃ key, entry.1 = .text key)
    (h : ∀ entry ∈ entries, fault? entry.2 = none) : entryFault? entries = none := by
  induction entries with
  | nil => rfl
  | cons entry entries ih =>
    obtain ⟨key, hkey⟩ := hkeys entry (by simp)
    rw [entryFault?, hkey, h entry (by simp),
      ih (fun other hother => hkeys other (by simp [hother]))
        fun other hother => h other (by simp [hother])]
    rfl

/-- What JSON has can be written. -/
theorem Native.fault?_eq_none {d : Document} (hd : Native d) : fault? d = none := by
  induction hd with
  | null | bool | real | text => rfl
  | integer h => simp [fault?, integerFault?, Decimal.integerText?_eq, h]
  | list _ ih => rw [fault?, itemFault?_eq_none ih]
  | mapping hkeys _ ih => rw [fault?, entryFault?_eq_none hkeys ih]

theorem Native.write_eq {d : Document} (hd : Native d) (pretty : Bool) :
    write pretty d = .ok (writeAt pretty 0 d) := by
  rw [write, hd.fault?_eq_none]

/-! ## What is read is native -/

end TextShell.Json
