import TextShell.Proofs.Program.Depth

/-!
# Reading does not depend on the place

A parser is given the text in front of it together with its place in the source,
but the place only ends up in the elements.  `Alike view p q` says that two parsers
do the same wherever they stand in front of the same text, up to what `view` forgets
of their answers; it has a rule for every way in which the grammar puts parsers
together.

What a rule does is therefore a matter of the text alone, and the two judgements
`Reads` and `Refuses` can be taken apart: one of them holds of every text, and what
is read by a sequence is read by its parts.

## Main results

* `uniform_value`, `uniform_execution`, `uniform_item` — the rules do not depend on
  the place.
* `Uniform.cases`, `Uniform.reads_bind`, `Uniform.refuses_bind` — how texts are read.
* `value_eq`, `execution_eq` — the rules without a bound on the depth.
-/

namespace TextShell

namespace Element

mutual

/-- The element without the places it was read from. -/
def unplaced : Element → Element
  | .mk tag text _ _ children fault =>
    .mk tag text .null .null (unplacedList children) fault

/-- Each element of a list without its places. -/
def unplacedList : List Element → List Element
  | [] => []
  | e :: rest => e.unplaced :: unplacedList rest

end

theorem unplacedList_eq (es : List Element) : unplacedList es = es.map unplaced := by
  induction es with
  | nil => rfl
  | cons e es ih => rw [unplacedList, ih, List.map_cons]

theorem unplaced_mk (tag : Tag) (text : Option Document) (line col : Document)
    (children : List Element) (fault : Option Fault) :
    (mk tag text line col children fault).unplaced =
      .mk tag text .null .null (children.map unplaced) fault := by
  rw [unplaced, unplacedList_eq]

end Element

namespace Parser

variable {α β γ δ : Type}

/-! ## Parsers that do the same at two places -/

/-- In front of the same text, the parsers refuse, or they take equally much and
answer alike. -/
def Alike (view : α → γ) (p q : Parser α) : Prop :=
  ∀ c d : Cursor, c.rest = d.rest →
    p c = none ∧ q d = none ∨
      ∃ a b n, n ≤ c.rest.length ∧ p c = some (a, c.skip n) ∧
        q d = some (b, d.skip n) ∧ view a = view b

/-- What the parser does is a matter of the text in front of it. -/
abbrev Uniform (view : α → γ) (p : Parser α) : Prop := Alike view p p

namespace Alike

variable {view : α → γ} {view' : β → δ} {p q : Parser α} {p' q' : Parser α}

theorem pure {a b : α} (h : view a = view b) :
    Alike view (Pure.pure a : Parser α) (Pure.pure b) := by
  intro c d _
  refine .inr ⟨a, b, 0, Nat.zero_le _, ?_, ?_, h⟩
  · rw [pure_apply, Cursor.skip_zero]
  · rw [pure_apply, Cursor.skip_zero]

theorem bind {f g : α → Parser β} (hp : Alike view p q)
    (hf : ∀ a b, view a = view b → Alike view' (f a) (g b)) :
    Alike view' (p >>= f) (q >>= g) := by
  intro c d h
  rw [bind_apply, bind_apply]
  rcases hp c d h with ⟨hc, hd⟩ | ⟨a, b, n, hn, hc, hd, hview⟩
  · exact .inl ⟨by rw [hc]; rfl, by rw [hd]; rfl⟩
  · have hrest : (c.skip n).rest = (d.skip n).rest := by simp [h]
    rw [hc, hd, Option.bind_some, Option.bind_some]
    rcases hf a b hview _ _ hrest with hnone | ⟨a', b', m, hm, hc', hd', hview'⟩
    · exact .inl hnone
    · rw [Cursor.skip_rest, List.length_drop] at hm
      rw [Cursor.skip_skip] at hc' hd'
      exact .inr ⟨a', b', n + m, by omega, hc', hd', hview'⟩

/-- Two parsers that do as a third does. -/
theorem both (hp : Alike view p q) (hp' : Alike view p' q) : Alike view p p' := by
  intro c d h
  rcases hp c d h with ⟨hc, hd⟩ | ⟨a, b, n, hn, hc, hd, hview⟩
  · rcases hp' d d rfl with ⟨hd', -⟩ | ⟨a', b', m, -, -, hsome, -⟩
    · exact .inl ⟨hc, hd'⟩
    · rw [hd] at hsome
      cases hsome
  · rcases hp' d d rfl with ⟨-, hnone⟩ | ⟨a', b', m, hm, hd', hsome, hview'⟩
    · rw [hd] at hnone
      cases hnone
    · rw [hd] at hsome
      obtain ⟨rfl, hskip⟩ := Prod.mk.inj (Option.some.inj hsome)
      exact .inr ⟨a, a', n, hn, hc, by rw [hskip]; exact hd', hview.trans hview'.symm⟩

/-- One parser behind another that has no answer to use. -/
theorem seq {s : Parser Unit} {p q : Parser β} (hs : Uniform id s)
    (hp : Alike view' p q) : Alike view' (s >>= fun _ => p) (s >>= fun _ => q) :=
  hs.bind fun _ _ _ => hp

theorem orElse (hp : Alike view p q) (hp' : Alike view p' q') :
    Alike view (p <|> p') (q <|> q') := by
  intro c d h
  rw [orElse_apply, orElse_apply]
  rcases hp c d h with ⟨hc, hd⟩ | ⟨a, b, n, hn, hc, hd, hview⟩
  · rw [hc, hd, Option.none_or, Option.none_or]
    exact hp' c d h
  · rw [hc, hd]
    exact .inr ⟨a, b, n, hn, rfl, rfl, hview⟩

theorem get : Uniform Cursor.rest (MonadState.get : Parser Cursor) := by
  intro c d h
  refine .inr ⟨c, d, 0, Nat.zero_le _, ?_, ?_, h⟩
  · rw [get_apply, Cursor.skip_zero]
  · rw [get_apply, Cursor.skip_zero]

/-- To skip beyond the end is to skip to the end. -/
theorem skip_min (c : Cursor) (n : Nat) : c.skip (min n c.rest.length) = c.skip n := by
  by_cases hle : n ≤ c.rest.length
  · rw [Nat.min_eq_left hle]
  · obtain ⟨m, rfl⟩ : ∃ m, n = c.rest.length + m := ⟨n - c.rest.length, by omega⟩
    have hend : (c.skip c.rest.length).rest = [] := by simp
    rw [Nat.min_eq_right (by omega), ← Cursor.skip_skip, Cursor.skip_of_rest_nil hend]

theorem take (length? : List Char → Option Nat) : Uniform id (take length?) := by
  intro c d h
  cases hn : length? c.rest with
  | none =>
      have hd : length? d.rest = none := h ▸ hn
      exact .inl ⟨by rw [Parser.take, hn], by rw [Parser.take, hd]⟩
  | some n =>
      have hd : length? d.rest = some n := h ▸ hn
      refine .inr ⟨(), (), min n c.rest.length, Nat.min_le_right .., ?_, ?_, rfl⟩
      · rw [Parser.take, hn, skip_min]
      · rw [Parser.take, hd, h, skip_min]

theorem many (hp : Alike view p q) (fuel : Nat) :
    Alike (List.map view) (many p fuel) (many q fuel) := by
  induction fuel with
  | zero => exact pure rfl
  | succ fuel ih =>
      rw [many_succ, many_succ]
      refine orElse (hp.bind fun a b hab => ih.bind fun as bs habs => pure ?_) (pure rfl)
      rw [List.map_cons, List.map_cons, hab, habs]

/-- The place of an element is all that depends on the place. -/
theorem element {p q : Parser (Tag × List Element)}
    (h : Alike (Prod.map id (List.map Element.unplaced)) p q) :
    Alike Element.unplaced (Grammar.element p) (Grammar.element q) := by
  intro c d hrest
  have hrefuses {p : Parser (Tag × List Element)} {c : Cursor} (hnone : p c = none) :
      Grammar.element p c = none := by
    cases he : Grammar.element p c with
    | none => rfl
    | some answer =>
        obtain ⟨tag, children, hp, -⟩ := Grammar.element_eq_some.1 he
        rw [hnone] at hp
        cases hp
  rcases h c d hrest with ⟨hc, hd⟩ | ⟨⟨tag, cs⟩, ⟨tag', ds⟩, n, hn, hc, hd, hview⟩
  · exact .inl ⟨hrefuses hc, hrefuses hd⟩
  · obtain ⟨rfl, hchildren⟩ := Prod.mk.inj hview
    refine .inr ⟨_, _, n, hn, Grammar.element_eq_some.2 ⟨tag, cs, hc, rfl⟩,
      Grammar.element_eq_some.2 ⟨tag, ds, hd, rfl⟩, ?_⟩
    rw [Element.unplaced_mk, Element.unplaced_mk, Cursor.skip_offset hn,
      Cursor.skip_offset (hrest ▸ hn), Nat.add_sub_cancel_left, Nat.add_sub_cancel_left,
      hrest]
    exact congrArg (fun children => Element.mk tag _ .null .null children none) hchildren

theorem tagged (tag : Tag) {p q : Parser (List Element)}
    (h : Alike (List.map Element.unplaced) p q) :
    Alike Element.unplaced (Grammar.tagged tag p) (Grammar.tagged tag q) :=
  element (h.bind fun _ _ hchildren => pure (congrArg (Prod.mk tag) hchildren))

theorem leaf (tag : Tag) {p : Parser Unit} (h : Uniform id p) :
    Uniform Element.unplaced (Grammar.leaf tag p) :=
  element (seq h (pure rfl))

end Alike

/-! ## What is read of a text -/

/-- In front of `w ++ r`, the parser takes `w` and answers with something that looks
like `v`. -/
abbrev Reads (view : α → γ) (p : Parser α) (w r : List Char) (v : γ) : Prop :=
  Yields p w r fun a => view a = v

section Uniform

variable {view : α → γ} {view' : β → δ} {p q : Parser α} {f : α → Parser β}
  {w r s : List Char} {v : γ} {v' : δ}

theorem Alike.refuses (hp : Uniform view p) {c : Cursor} (h : p c = none) :
    Refuses p c.rest := by
  intro d hd
  rcases hp c d hd.symm with ⟨-, hnone⟩ | ⟨a, b, n, -, hc, -⟩
  · exact hnone
  · rw [h] at hc
    cases hc

theorem Alike.reads (hp : Uniform view p) {c stop : Cursor} {a : α}
    (h : p c = some (a, stop)) :
    ∃ w r, c.rest = w ++ r ∧ stop = c.skip w.length ∧ Reads view p w r (view a) := by
  rcases hp c c rfl with ⟨hnone, -⟩ | ⟨a', -, n, hn, hc, -⟩
  · rw [hnone] at h
    cases h
  · rw [h] at hc
    obtain ⟨rfl, rfl⟩ := Prod.mk.inj (Option.some.inj hc)
    have hlen : (c.rest.take n).length = n := by
      rw [List.length_take, Nat.min_eq_left hn]
    refine ⟨c.rest.take n, c.rest.drop n, (List.take_append_drop n _).symm, by rw [hlen],
      fun d hd => ?_⟩
    rw [List.take_append_drop] at hd
    rcases hp c d hd.symm with ⟨hnone, -⟩ | ⟨a', b, m, hm, hc', hd', hview⟩
    · rw [hnone] at h
      cases h
    · rw [h] at hc'
      obtain ⟨rfl, hskip⟩ := Prod.mk.inj (Option.some.inj hc')
      obtain rfl : n = m := by
        have hoffset := congrArg Cursor.offset hskip
        rw [Cursor.skip_offset hn, Cursor.skip_offset hm] at hoffset
        omega
      exact ⟨b, hview.symm, by rw [hlen]; exact hd'⟩

/-- A text is refused, or some of it is read. -/
theorem Alike.cases (hp : Uniform view p) (s : List Char) :
    Refuses p s ∨ ∃ w r a, s = w ++ r ∧ Reads view p w r (view a) := by
  cases hs : p { rest := s } with
  | none => exact .inl (hp.refuses hs)
  | some answer =>
      obtain ⟨w, r, hrest, -, hreads⟩ := hp.reads (a := answer.1) hs
      exact .inr ⟨w, r, answer.1, hrest, hreads⟩

/-- What is taken of a text, and the answer, are determined by the text. -/
theorem Yields.unique {P Q : α → Prop} {w' r' : List Char} (h : Yields p w r P)
    (h' : Yields p w' r' Q) (htext : w ++ r = w' ++ r') :
    w = w' ∧ r = r' ∧ ∃ a, P a ∧ Q a := by
  let c : Cursor := { rest := w ++ r }
  obtain ⟨a, ha, hc⟩ := h c rfl
  obtain ⟨a', ha', hc'⟩ := h' c htext
  rw [hc] at hc'
  obtain ⟨rfl, hskip⟩ := Prod.mk.inj (Option.some.inj hc')
  have hlen : w.length ≤ c.rest.length := by simp [c]
  have hlen' : w'.length ≤ c.rest.length := by simp [c, htext]
  have hoffset := congrArg Cursor.offset hskip
  rw [Cursor.skip_offset hlen, Cursor.skip_offset hlen'] at hoffset
  obtain ⟨rfl, rfl⟩ := List.append_inj htext (by omega)
  exact ⟨rfl, rfl, a, ha, ha'⟩

theorem Yields.not_refuses {P : α → Prop} (h : Yields p w r P) : ¬Refuses p (w ++ r) := by
  intro hrefuses
  obtain ⟨a, -, ha⟩ := h { rest := w ++ r } rfl
  rw [hrefuses _ rfl] at ha
  cases ha

theorem Yields.pos {P : α → Prop} (h : Yields p w r P) (hshort : Shortens 1 p) :
    0 < w.length := by
  obtain ⟨a, -, ha⟩ := h { rest := w ++ r } rfl
  have hlen := hshort _ _ _ ha
  simp only [Cursor.skip_rest, List.drop_left, List.length_append] at hlen
  omega

theorem Alike.reads_of_takes (hp : Uniform view p) (h : Takes p w r) :
    ∃ a, Reads view p w r (view a) := by
  rcases hp.cases (w ++ r) with hrefuses | ⟨w', r', a, htext, hreads⟩
  · exact absurd hrefuses h.not_refuses
  · obtain ⟨rfl, rfl, -⟩ := h.unique hreads htext
    exact ⟨a, hreads⟩

/-- What a sequence reads is read by its parts. -/
theorem Alike.reads_bind (hp : Uniform view p)
    (hf : ∀ a b, view a = view b → Alike view' (f a) (f b))
    (h : Reads view' (p >>= f) w r v') :
    ∃ w₁ w₂ a, w = w₁ ++ w₂ ∧ Reads view p w₁ (w₂ ++ r) (view a) ∧
      Reads view' (f a) w₂ r v' := by
  let c : Cursor := { rest := w ++ r }
  obtain ⟨b, rfl, hc⟩ := h c rfl
  obtain ⟨a, mid, hpa, hfa⟩ := bind_eq_some.1 hc
  obtain ⟨w₁, r₁, hrest, rfl, hreads⟩ := hp.reads hpa
  obtain ⟨w₂, r₂, hrest', hskip, hreads'⟩ := (hf a a rfl).reads hfa
  rw [Cursor.skip_rest, hrest, List.drop_left] at hrest'
  subst hrest'
  have hlen : w.length = w₁.length + w₂.length := by
    have hle : w.length ≤ c.rest.length := by simp [c]
    have hle' : w₁.length + w₂.length ≤ c.rest.length := by simp [hrest]
    have hoffset := congrArg Cursor.offset hskip
    rw [Cursor.skip_skip, Cursor.skip_offset hle, Cursor.skip_offset hle'] at hoffset
    omega
  have htext : w ++ r = (w₁ ++ w₂) ++ r₂ := by
    rw [List.append_assoc]
    exact hrest
  obtain ⟨rfl, rfl⟩ := List.append_inj htext (by simp [hlen])
  exact ⟨w₁, w₂, a, rfl, hreads, hreads'⟩

/-- What a sequence refuses is refused by its first part, or behind it. -/
theorem Alike.refuses_bind (hp : Uniform view p)
    (hf : ∀ a b, view a = view b → Alike view' (f a) (f b)) (h : Refuses (p >>= f) s) :
    Refuses p s ∨
      ∃ w r a, s = w ++ r ∧ Reads view p w r (view a) ∧ Refuses (f a) r := by
  rcases hp.cases s with hrefuses | ⟨w, r, a, rfl, hreads⟩
  · exact .inl hrefuses
  · refine .inr ⟨w, r, a, rfl, hreads, ?_⟩
    obtain ⟨a', ha', hc⟩ := hreads { rest := w ++ r } rfl
    have hnone := h { rest := w ++ r } rfl
    rw [bind_apply, hc, Option.bind_some] at hnone
    intro d hd
    have hrest : (Cursor.skip { rest := w ++ r } w.length).rest = d.rest := by simp [hd]
    rcases hf a' a ha' _ d hrest with ⟨-, hrefuses⟩ | ⟨x, y, n, -, hsome, -⟩
    · exact hrefuses
    · rw [hnone] at hsome
      cases hsome

theorem Alike.reads_seq {u : Parser Unit} {q : Parser β} (hu : Uniform id u)
    (hq : Uniform view' q) (h : Reads view' (u >>= fun _ => q) w r v') :
    ∃ w₁ w₂, w = w₁ ++ w₂ ∧ Takes u w₁ (w₂ ++ r) ∧ Reads view' q w₂ r v' := by
  obtain ⟨w₁, w₂, _, rfl, hreads, hreads'⟩ := hu.reads_bind (fun _ _ _ => hq) h
  exact ⟨w₁, w₂, rfl, Yields.mono hreads fun _ _ => trivial, hreads'⟩

theorem Alike.reads_orElse (hp : Uniform view p) (h : Reads view (p <|> q) w r v) :
    Reads view p w r v ∨ Refuses p (w ++ r) ∧ Reads view q w r v := by
  rcases hp.cases (w ++ r) with hrefuses | ⟨w', r', a, htext, hreads⟩
  · refine .inr ⟨hrefuses, fun d hd => ?_⟩
    obtain ⟨b, hb, hd'⟩ := h d hd
    rw [orElse_apply, hrefuses d hd, Option.none_or] at hd'
    exact ⟨b, hb, hd'⟩
  · refine .inl ?_
    have hleft : Reads view (p <|> q) w' r' (view a) := hreads.orElse_left
    obtain ⟨rfl, rfl, b, hb, hb'⟩ := h.unique hleft htext
    rw [← hb, hb']
    exact hreads

theorem refuses_orElse_iff : Refuses (p <|> q) s ↔ Refuses p s ∧ Refuses q s := by
  constructor
  · intro h
    have hnone (c : Cursor) (hc : c.rest = s) : p c = none ∧ q c = none := by
      have := h c hc
      rwa [orElse_apply, Option.or_eq_none_iff] at this
    exact ⟨fun c hc => (hnone c hc).1, fun c hc => (hnone c hc).2⟩
  · exact fun h => h.1.orElse h.2

theorem reads_pure {a : α} (h : Reads view (Pure.pure a) w r v) : w = [] ∧ view a = v := by
  have hpure : Reads view (Pure.pure a) [] (w ++ r) (view a) := Yields.pure rfl
  obtain ⟨rfl, -, b, hb, hb'⟩ := h.unique hpure rfl
  exact ⟨rfl, hb'.symm.trans hb⟩

theorem takes_pure {a : α} (h : Takes (Pure.pure a) w r) : w = [] := by
  have hpure : Takes (Pure.pure a) [] (w ++ r) := Yields.pure trivial
  exact (h.unique hpure rfl).1

theorem takes_take {length? : List Char → Option Nat} (h : Takes (take length?) w r) :
    ∃ n, length? (w ++ r) = some n ∧ w = (w ++ r).take n := by
  obtain ⟨_, _, hc⟩ := h { rest := w ++ r } rfl
  obtain ⟨n, hn, hskip⟩ := take_eq_some.1 hc
  refine ⟨n, hn, ?_⟩
  have hrest := congrArg (fun c => c.rest.length) hskip
  simp only [Cursor.skip_rest, List.length_drop, List.length_append] at hrest
  by_cases hle : n ≤ w.length + r.length
  · obtain rfl : n = w.length := by omega
    rw [List.take_left]
  · have hr : r = [] := List.length_eq_zero_iff.1 (by omega)
    rw [List.take_of_length_le (by simp; omega), hr, List.append_nil]

end Uniform

/-! ## Repetitions -/

/-- The text is read piece by piece, the last one in front of `r`. -/
inductive Steps (view : α → γ) (p : Parser α) (r : List Char) :
    List Char → List γ → Prop where
  | nil : Steps view p r [] []
  | cons {w ws : List Char} {v : γ} {vs : List γ} (hw : w ≠ [])
      (h : Reads view p w (ws ++ r) v) (hrest : Steps view p r ws vs) :
      Steps view p r (w ++ ws) (v :: vs)

section Steps

variable {view : α → γ} {p : Parser α} {w r : List Char} {vs : List γ}

/-- As many characters as are read are enough for the bound. -/
theorem Steps.reads (h : Steps view p r w vs) (hstop : Refuses p r) {fuel : Nat}
    (hfuel : w.length ≤ fuel) : Reads (List.map view) (many p fuel) w r vs := by
  induction h generalizing fuel with
  | nil =>
      cases fuel with
      | zero => exact Yields.pure rfl
      | succ fuel => exact Yields.orElse_right hstop.bind (Yields.pure rfl)
  | @cons w ws v vs hw h hrest ih =>
      have hpos := List.length_pos_iff.2 hw
      rw [List.length_append] at hfuel
      obtain ⟨fuel, rfl⟩ : ∃ k, fuel = k + 1 := ⟨fuel - 1, by omega⟩
      rw [many_succ]
      refine Yields.orElse_left (h.bind fun a ha => ?_)
      refine (ih (by omega)).finish fun as has => ?_
      rw [List.map_cons, ha, has]

theorem Steps.append {w' : List Char} {vs' : List γ} (h : Steps view p (w' ++ r) w vs)
    (h' : Steps view p r w' vs') : Steps view p r (w ++ w') (vs ++ vs') := by
  induction h with
  | nil => exact h'
  | cons hw h _ ih =>
      rw [List.append_assoc, List.cons_append]
      exact .cons hw (by rwa [List.append_assoc]) ih

theorem Steps.exists_append {us : List γ} (h : Steps view p r w (vs ++ us)) :
    ∃ w₁ w₂, w = w₁ ++ w₂ ∧ Steps view p (w₂ ++ r) w₁ vs ∧ Steps view p r w₂ us := by
  induction vs generalizing w with
  | nil => exact ⟨[], w, rfl, .nil, h⟩
  | cons v vs ih =>
      cases h with
      | @cons w ws _ _ hw h hrest =>
          obtain ⟨w₁, w₂, rfl, h₁, h₂⟩ := ih hrest
          rw [List.append_assoc] at h
          exact ⟨w ++ w₁, w₂, (List.append_assoc ..).symm, .cons hw h h₁, h₂⟩

/-- A repetition takes nothing rather than refuse. -/
theorem many_ne_none (p : Parser α) (fuel : Nat) (c : Cursor) : many p fuel c ≠ none := by
  cases fuel with
  | zero => simp [many, pure_apply]
  | succ fuel =>
      rw [many_succ, orElse_apply, pure_apply]
      simp

theorem Alike.steps (hp : Uniform view p) (hs : Shortens 1 p) {fuel : Nat}
    (h : Reads (List.map view) (Parser.many p fuel) w r vs)
    (hfuel : (w ++ r).length ≤ fuel) : Steps view p r w vs ∧ Refuses p r := by
  have hcons {a b : α} {as bs : List α} (hab : view a = view b)
      (habs : as.map view = bs.map view) : (a :: as).map view = (b :: bs).map view := by
    rw [List.map_cons, List.map_cons, hab, habs]
  induction fuel generalizing w vs with
  | zero =>
      obtain ⟨rfl, rfl⟩ := reads_pure h
      obtain rfl : r = [] := List.length_eq_zero_iff.1 (by simpa using hfuel)
      exact ⟨.nil, hs.refuses_nil⟩
  | succ fuel ih =>
      have hmore (a b : α) (hab : view a = view b) : Alike (List.map view)
          (Parser.many p fuel >>= fun as => Pure.pure (a :: as))
          (Parser.many p fuel >>= fun as => Pure.pure (b :: as)) :=
        (hp.many fuel).bind fun as bs habs => .pure (hcons hab habs)
      rw [many_succ] at h
      rcases (hp.bind hmore).reads_orElse h with h | ⟨hrefuses, h⟩
      · obtain ⟨w₁, w₂, a, rfl, hfirst, h⟩ := hp.reads_bind hmore h
        obtain ⟨w₂, w₃, as, rfl, hrest, h⟩ := (hp.many fuel).reads_bind
          (fun as bs habs => .pure (hcons rfl habs)) h
        obtain ⟨rfl, rfl⟩ := reads_pure h
        have hpos := hfirst.pos hs
        rw [List.append_nil] at hfirst hfuel ⊢
        simp only [List.length_append] at hfuel
        obtain ⟨hsteps, hstop⟩ := ih hrest (by rw [List.length_append]; omega)
        exact ⟨.cons (List.length_pos_iff.1 hpos) hfirst hsteps, hstop⟩
      · obtain ⟨rfl, rfl⟩ := reads_pure h
        refine ⟨.nil, ?_⟩
        rcases hp.refuses_bind hmore hrefuses with hstop | ⟨w, r, a, -, -, hnone⟩
        · exact hstop
        · have hbind := hnone { rest := r } rfl
          rw [bind_apply, Option.bind_eq_none_iff] at hbind
          cases hsome : Parser.many p fuel { rest := r } with
          | none => exact absurd hsome (many_ne_none p fuel _)
          | some answer => exact absurd (hbind answer hsome) (by simp [pure_apply])

/-- As many of `p` as follow one another. -/
def exhaust (p : Parser α) : Parser (List α) := get >>= fun c => many p c.rest.length

theorem sepBy_eq (p : Parser α) (s : Parser Unit) :
    sepBy p s = p >>= fun first => exhaust (s >>= fun _ => p) >>= fun rest =>
      pure (first :: rest) := by
  simp only [sepBy, exhaust, bind_assoc]

theorem Alike.exhaust {p q : Parser α} (hp : Alike view p q) :
    Alike (List.map view) (exhaust p) (Parser.exhaust q) :=
  Alike.get.bind fun c d hcd => by
    rw [hcd]
    exact hp.many _

theorem Alike.sepBy {p q : Parser α} {s : Parser Unit} (hp : Alike view p q)
    (hs : Uniform id s) : Alike (List.map view) (sepBy p s) (Parser.sepBy q s) := by
  rw [sepBy_eq, sepBy_eq]
  exact hp.bind fun _ _ hfirst => (Alike.seq hs hp).exhaust.bind fun _ _ hrest =>
    .pure (by rw [List.map_cons, List.map_cons, hfirst, hrest])

theorem Alike.reads_exhaust_iff (hp : Uniform view p) (hs : Shortens 1 p) :
    Reads (List.map view) (Parser.exhaust p) w r vs ↔
      Steps view p r w vs ∧ Refuses p r := by
  constructor
  · intro h
    obtain ⟨w₁, w₂, c, rfl, hget, hmany⟩ := Alike.get.reads_bind (fun c d hcd => by
      rw [hcd]
      exact hp.many _) h
    have hhere : Reads Cursor.rest MonadState.get [] (w₁ ++ w₂ ++ r) (w₁ ++ w₂ ++ r) :=
      Yields.get
    obtain ⟨rfl, -, d, hd, hc⟩ := hget.unique hhere (List.append_assoc ..).symm
    exact hp.steps hs hmany (by rw [← hd, hc])
  · rintro ⟨h, hstop⟩
    refine Yields.bind (w := []) Yields.get fun c hc => h.reads hstop ?_
    simp [hc]

end Steps

end Parser

/-! ## Elements that are read -/

/-- The element of a text, without its place. -/
def Element.ofText (tag : Tag) (w : List Char) (children : List Element) : Element :=
  .mk tag (some (.text (String.ofList w))) .null .null children none

namespace Parser

section Elements

variable {w r : List Char} {v : Element}

theorem reads_element_iff {p : Parser (Tag × List Element)} :
    Reads Element.unplaced (Grammar.element p) w r v ↔
      ∃ tag children, v = .ofText tag w children ∧
        Reads (Prod.map id (List.map Element.unplaced)) p w r (tag, children) := by
  have htext {c : Cursor} (hc : c.rest = w ++ r) :
      c.rest.take ((c.skip w.length).offset - c.offset) = w := by
    rw [Cursor.skip_offset (by simp [hc]), Nat.add_sub_cancel_left, hc, List.take_left]
  constructor
  · intro h
    -- any one cursor tells what the answer looks like
    obtain ⟨e, rfl, he⟩ := h { rest := w ++ r } rfl
    obtain ⟨tag, children, -, rfl⟩ := Grammar.element_eq_some.1 he
    refine ⟨tag, children.map Element.unplaced, ?_, fun c hc => ?_⟩
    · rw [Element.unplaced_mk, htext rfl]
      rfl
    · obtain ⟨e, hview, he⟩ := h c hc
      obtain ⟨tag', children', hp, rfl⟩ := Grammar.element_eq_some.1 he
      rw [Element.unplaced_mk, Element.unplaced_mk] at hview
      injection hview with htag _ _ _ hchildren
      exact ⟨(tag', children'), Prod.ext htag hchildren, hp⟩
  · rintro ⟨tag, children, rfl, h⟩ c hc
    obtain ⟨⟨tag', children'⟩, hview, hp⟩ := h c hc
    obtain ⟨rfl, rfl⟩ := Prod.mk.inj hview
    refine ⟨_, ?_, Grammar.element_eq_some.2 ⟨_, _, hp, rfl⟩⟩
    beta_reduce
    rw [Element.unplaced_mk, htext hc]
    rfl

theorem reads_leaf_iff {tag : Tag} {p : Parser Unit} :
    Reads Element.unplaced (Grammar.leaf tag p) w r v ↔
      v = .ofText tag w [] ∧ Takes p w r := by
  rw [Grammar.leaf, reads_element_iff]
  constructor
  · rintro ⟨tag', children, rfl, h⟩
    have hpair (c : Cursor) (hc : c.rest = w ++ r) :
        (tag, []) = (tag', children) ∧ p c = some ((), c.skip w.length) := by
      obtain ⟨pair, hview, hp⟩ := h c hc
      obtain ⟨_, mid, hes, hpure⟩ := bind_eq_some.1 hp
      obtain ⟨rfl, rfl⟩ := pure_eq_some.1 hpure
      exact ⟨hview, hes⟩
    obtain ⟨rfl, rfl⟩ := Prod.mk.inj (hpair { rest := w ++ r } rfl).1
    exact ⟨rfl, fun c hc => ⟨(), trivial, (hpair c hc).2⟩⟩
  · rintro ⟨rfl, h⟩
    exact ⟨tag, [], rfl, h.finish fun _ _ => rfl⟩

end Elements

end Parser

/-! ## The rules -/

namespace Grammar

open TextShell.Parser Element

theorem uniform_separator : Uniform id separator := .seq (.take _) (.take _)

/-- What stands between two arguments. -/
theorem uniform_comma : Uniform id (blank >>= fun _ => char ',' >>= fun _ => blank) :=
  .seq (.take _) (.seq (.take _) (.take _))

theorem uniform_variableName : Uniform unplaced variableName := .leaf _ (.take _)

theorem uniform_functionName : Uniform unplaced functionName := .leaf _ (.take _)

theorem uniform_formalParam : Uniform unplaced formalParam := .leaf _ (.take _)

theorem uniform_dquoteString : Uniform unplaced dquoteString :=
  .leaf _ (.seq (.take _) (.take _))

theorem uniform_squoteString : Uniform unplaced squoteString :=
  .leaf _ (.seq (.take _) (.take _))

theorem uniform_bareString : Uniform unplaced bareString := .leaf _ (.take _)

section Rules

variable {value execution : Parser Element} (hv : Uniform unplaced value)
  (hx : Uniform unplaced execution)

include hx in
theorem uniform_block : Uniform unplaced (block execution) :=
  .tagged .block <|
    .seq (.take _) <| .seq (.take _) <|
    ((hx.sepBy uniform_separator).orElse (.pure rfl)).bind fun _ _ hes =>
    .seq (.take _) <| .seq (.take _) <| .pure hes

include hv

theorem uniform_elseBranch : Uniform unplaced (elseBranch value) :=
  .seq (.take _) <| .seq (.take _) <| .seq (.take _) hv

theorem uniform_forStatement : Uniform unplaced (forStatement value) :=
  .element <|
    .seq (.take _) <| .seq (.take _) <|
    uniform_variableName.bind fun _ _ htarget =>
    .seq (.take _) <| .seq (.take _) <| .seq (.take _) <|
    hv.bind fun _ _ hlist =>
    .orElse
      (.seq (.take _) <| .seq (.take _) <| .seq (.take _) <|
        hv.bind fun _ _ hseparator => .seq (.take _) <|
        hv.bind fun _ _ hbody => .pure (by simp [htarget, hlist, hseparator, hbody]))
      (.seq (.take _) <|
        hv.bind fun _ _ hbody => .pure (by simp [htarget, hlist, hbody]))

theorem uniform_ifStatement : Uniform unplaced (ifStatement value) := by
  rw [ifStatement_eq]
  exact .element <|
    .seq (.take _) <| .seq (.take _) <|
    hv.bind fun _ _ hcondition => .seq (.take _) <|
    hv.bind fun _ _ hbody =>
    .orElse
      ((uniform_elseBranch hv).bind fun _ _ hfalse =>
        .pure (by simp [hcondition, hbody, hfalse]))
      (.pure (by simp [hcondition, hbody]))

theorem uniform_whileStatement : Uniform unplaced (whileStatement value) :=
  .tagged .whileStmt <|
    .seq (.take _) <| .seq (.take _) <|
    hv.bind fun _ _ hcondition => .seq (.take _) <|
    hv.bind fun _ _ hbody => .pure (by simp [hcondition, hbody])

theorem uniform_controlStatement : Uniform unplaced (controlStatement value) :=
  (uniform_forStatement hv).orElse <|
    (uniform_ifStatement hv).orElse (uniform_whileStatement hv)

theorem uniform_setStatement : Uniform unplaced (setStatement value) :=
  .tagged .setStmt <|
    uniform_variableName.bind fun _ _ htarget =>
    .seq (.take _) <| .seq (.take _) <| .seq (.take _) <|
    hv.bind fun _ _ hheld => .pure (by simp [htarget, hheld])

theorem uniform_optionalValue (tag : Tag) (word : String) :
    Uniform unplaced (optionalValue value tag word) :=
  .tagged tag <|
    .seq (.take _) <|
    .orElse (.seq (.take _) <| hv.bind fun _ _ hheld => .pure (by simp [hheld]))
      (.pure rfl)

theorem uniform_parenCall : Uniform unplaced (parenCall value) :=
  .tagged .call <|
    uniform_functionName.bind fun _ _ hname =>
    .seq (.take _) <| .seq (.take _) <|
    ((hv.sepBy uniform_comma).orElse (.pure rfl)).bind fun _ _ harguments =>
    .seq (.take _) <| .seq (.take _) <| .pure (by simp [hname, harguments])

omit hv in
/-- The rule of calls, with the part behind the name named. -/
theorem shellCall_eq (value : Parser Element) :
    shellCall value = tagged .call (functionName >>= fun name =>
      exhaust (space >>= fun _ => value) >>= fun arguments => pure (name :: arguments)) := by
  simp only [shellCall, exhaust, bind_assoc]

theorem uniform_shellCall : Uniform unplaced (shellCall value) := by
  rw [shellCall_eq]
  exact .tagged .call <| uniform_functionName.bind fun _ _ hname =>
    (Alike.seq (.take _) hv).exhaust.bind fun _ _ harguments =>
    .pure (by simp [hname, harguments])

theorem uniform_openStatement : Uniform unplaced (openStatement value) :=
  (uniform_setStatement hv).orElse <|
    (uniform_optionalValue hv _ _).orElse <|
    (uniform_optionalValue hv _ _).orElse <|
    (uniform_parenCall hv).orElse (uniform_shellCall hv)

include hx

theorem uniform_executionRule : Uniform unplaced (executionRule value execution) :=
  (uniform_block hx).orElse <|
    (uniform_controlStatement hv).orElse (uniform_openStatement hv)

theorem uniform_valueRule : Uniform unplaced (valueRule value execution) :=
  (uniform_block hx).orElse <|
    (uniform_controlStatement hv).orElse <|
    uniform_dquoteString.orElse <|
    uniform_squoteString.orElse uniform_bareString

omit hv in
theorem uniform_functionRule : Uniform unplaced (functionRule execution) :=
  .tagged .function <|
    .seq (.take _) <| .seq (.take _) <|
    uniform_functionName.bind fun _ _ hname =>
    .seq (.take _) <| .seq (.take _) <| .seq (.take _) <|
    ((uniform_formalParam.sepBy uniform_comma).orElse (.pure rfl)).bind fun _ _ hparams =>
    .seq (.take _) <| .seq (.take _) <| .seq (.take _) <|
    (uniform_block hx).bind fun _ _ hbody => .pure (by simp [hname, hparams, hbody])

end Rules

theorem uniform_parse (fuel : Nat) (rule : Rule) : Uniform unplaced (rule.parse fuel) := by
  induction fuel generalizing rule with
  | zero => exact fun _ _ _ => .inl ⟨rfl, rfl⟩
  | succ fuel ih =>
      cases rule with
      | value => exact uniform_valueRule (ih _) (ih _)
      | execution => exact uniform_executionRule (ih _) (ih _)

/-! ## The rules without a bound -/

/-- The parser of a rule.  The text in front of it bounds the depth. -/
def Rule.reader (rule : Rule) : Parser Element :=
  fun c => rule.parse (c.rest.length + 1) c

/-- A value. -/
abbrev value : Parser Element := Rule.value.reader

/-- A statement. -/
abbrev execution : Parser Element := Rule.execution.reader

/-- An item of a source. -/
def item : Parser Element := functionRule execution <|> execution

theorem parse_same_reader (fuel : Nat) (rule : Rule) :
    Same fuel (rule.parse (fuel + 1)) rule.reader := fun c hc =>
  parse_same (k := c.rest.length) (by omega) (by omega) rule c le_rfl

theorem shortens_reader (rule : Rule) : Shortens 1 rule.reader := fun c =>
  shortens_parse (c.rest.length + 1) rule c

theorem uniform_reader (rule : Rule) : Uniform unplaced rule.reader := by
  intro c d h
  have hparse := uniform_parse (c.rest.length + 1) rule c d h
  rwa [show rule.parse (c.rest.length + 1) d = rule.reader d by rw [Rule.reader, h]]
    at hparse

theorem value_eq : value = valueRule value execution := by
  funext c
  have hdeeper : value c = Rule.value.parse (c.rest.length + 2) c :=
    parse_same (Nat.lt_succ_self _) (by omega) .value c le_rfl
  rw [hdeeper]
  exact same_valueRule (parse_same_reader _ .value) (shortens_parse _ _).weaken
    (parse_same_reader _ .execution) (shortens_parse _ _).weaken c (Nat.le_succ _)

theorem execution_eq : execution = executionRule value execution := by
  funext c
  have hdeeper : execution c = Rule.execution.parse (c.rest.length + 2) c :=
    parse_same (Nat.lt_succ_self _) (by omega) .execution c le_rfl
  rw [hdeeper]
  exact same_executionRule (parse_same_reader _ .value) (shortens_parse _ _).weaken
    (parse_same_reader _ .execution) (shortens_parse _ _).weaken c (Nat.le_succ _)

theorem uniform_item : Uniform unplaced item :=
  (uniform_functionRule (uniform_reader _)).orElse (uniform_reader _)

theorem shortens_item : Shortens 1 item :=
  (shortens_functionRule (shortens_reader _).weaken).orElse (shortens_reader _)

end Grammar

end TextShell
