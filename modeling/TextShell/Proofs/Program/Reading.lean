import Mathlib
import TextShell.Program.Grammar

/-!
# A calculus of readers

Three judgements about a parser, each with a rule for every way in which the
grammar puts parsers together.

* `Yields p w r Q`: in front of `w ++ r` the parser takes exactly `w`, and
  its answer satisfies `Q`, wherever in a source that is.
* `Refuses p s`: in front of `s` the parser takes nothing.
* `Shortens d p`: whatever the parser takes, it takes at least `d` characters.

The first two are for sources that are known, such as printed ones; the last
is for sources that are not, together with the inversions `bind_eq_some` and
`orElse_eq_some`.
-/

namespace TextShell

namespace Cursor

@[simp] theorem skip_zero (at_ : Cursor) : at_.skip 0 = at_ := by
  cases at_; rfl

theorem skip_of_rest_nil {at_ : Cursor} (h : at_.rest = []) (n : Nat) :
    at_.skip n = at_ := by
  cases n with
  | zero => exact skip_zero at_
  | succ n => rw [skip, h]

theorem skip_succ_of_rest {at_ : Cursor} {c : Char} {rest : List Char}
    (h : at_.rest = c :: rest) (n : Nat) :
    at_.skip (n + 1) = (at_.step c rest).skip n := by
  rw [skip, h]

@[simp] theorem step_rest (at_ : Cursor) (c : Char) (rest : List Char) :
    (at_.step c rest).rest = rest := by
  unfold step; split <;> rfl

@[simp] theorem step_offset (at_ : Cursor) (c : Char) (rest : List Char) :
    (at_.step c rest).offset = at_.offset + 1 := by
  unfold step; split <;> rfl

@[simp] theorem skip_rest (at_ : Cursor) (n : Nat) :
    (at_.skip n).rest = at_.rest.drop n := by
  induction n generalizing at_ with
  | zero => simp
  | succ n ih =>
      cases h : at_.rest with
      | nil => simp [skip_of_rest_nil h, h]
      | cons c rest => simp [skip_succ_of_rest h, ih]

theorem skip_offset {at_ : Cursor} {n : Nat} (h : n ≤ at_.rest.length) :
    (at_.skip n).offset = at_.offset + n := by
  induction n generalizing at_ with
  | zero => simp
  | succ n ih =>
      cases hrest : at_.rest with
      | nil => simp [hrest] at h
      | cons c rest =>
          rw [skip_succ_of_rest hrest, ih (by simp [hrest] at h ⊢; omega),
            step_offset]
          omega

theorem skip_skip (at_ : Cursor) (m n : Nat) :
    (at_.skip m).skip n = at_.skip (m + n) := by
  induction m generalizing at_ with
  | zero => simp
  | succ m ih =>
      cases h : at_.rest with
      | nil => simp [skip_of_rest_nil h]
      | cons c rest =>
          rw [skip_succ_of_rest h, ih, Nat.add_right_comm, skip_succ_of_rest h]

end Cursor

namespace Parser

variable {α β : Type}

theorem bind_apply (p : Parser α) (f : α → Parser β) (at_ : Cursor) :
    (p >>= f) at_ = (p at_).bind fun answer => f answer.1 answer.2 := by
  rfl

theorem pure_apply (a : α) (at_ : Cursor) :
    (pure a : Parser α) at_ = some (a, at_) := rfl

theorem get_apply (at_ : Cursor) :
    (get : Parser Cursor) at_ = some (at_, at_) := rfl

theorem orElse_apply (p q : Parser α) (at_ : Cursor) :
    (p <|> q) at_ = (p at_).or (q at_) := by
  change (p at_ <|> q at_) = _
  cases p at_ <;> rfl

/-! ## Inversions -/

theorem bind_eq_some {p : Parser α} {f : α → Parser β} {at_ stop : Cursor}
    {b : β} :
    (p >>= f) at_ = some (b, stop) ↔
      ∃ a mid, p at_ = some (a, mid) ∧ f a mid = some (b, stop) := by
  rw [bind_apply, Option.bind_eq_some_iff]
  exact Prod.exists

theorem orElse_eq_some {p q : Parser α} {at_ stop : Cursor} {a : α} :
    (p <|> q) at_ = some (a, stop) ↔
      p at_ = some (a, stop) ∨ p at_ = none ∧ q at_ = some (a, stop) := by
  rw [orElse_apply, Option.or_eq_some_iff]

theorem pure_eq_some {a b : α} {at_ stop : Cursor} :
    (pure a : Parser α) at_ = some (b, stop) ↔ a = b ∧ at_ = stop := by
  rw [pure_apply, Option.some.injEq, Prod.mk.injEq]

theorem get_eq_some {at_ c stop : Cursor} :
    (get : Parser Cursor) at_ = some (c, stop) ↔ at_ = c ∧ at_ = stop := by
  rw [get_apply, Option.some.injEq, Prod.mk.injEq]

theorem take_eq_some {length? : List Char → Option Nat} {at_ stop : Cursor}
    {u : Unit} :
    take length? at_ = some (u, stop) ↔
      ∃ n, length? at_.rest = some n ∧ stop = at_.skip n := by
  unfold take
  cases h : length? at_.rest with
  | none => simp
  | some n => simp [eq_comm]

/-! ## Known sources -/

/-- In front of `w ++ r`, the parser takes `w` and answers with some `a` that
satisfies `Q`. -/
def Yields (p : Parser α) (w r : List Char) (Q : α → Prop) : Prop :=
  ∀ at_ : Cursor, at_.rest = w ++ r →
    ∃ a, Q a ∧ p at_ = some (a, at_.skip w.length)

/-- In front of `s`, the parser takes nothing. -/
def Refuses (p : Parser α) (s : List Char) : Prop :=
  ∀ at_ : Cursor, at_.rest = s → p at_ = none

/-- A parser that takes a stretch of known text, whatever it answers. -/
abbrev Takes (p : Parser α) (w r : List Char) : Prop :=
  Yields p w r fun _ => True

namespace Yields

variable {p q : Parser α} {f : α → Parser β} {v w r : List Char}
  {P : α → Prop} {Q : β → Prop}

theorem mono {P' : α → Prop} (h : Yields p w r P) (hP : ∀ a, P a → P' a) :
    Yields p w r P' := by
  intro at_ hrest
  obtain ⟨a, ha, hp⟩ := h at_ hrest
  exact ⟨a, hP a ha, hp⟩

theorem bind (hp : Yields p w (v ++ r) P)
    (hf : ∀ a, P a → Yields (f a) v r Q) :
    Yields (p >>= f) (w ++ v) r Q := by
  intro at_ hrest
  rw [List.append_assoc] at hrest
  obtain ⟨a, ha, hpa⟩ := hp at_ hrest
  have hmid : (at_.skip w.length).rest = v ++ r := by
    rw [Cursor.skip_rest, hrest, List.drop_left]
  obtain ⟨b, hb, hfb⟩ := hf a ha _ hmid
  refine ⟨b, hb, ?_⟩
  rw [bind_apply, hpa, Option.bind_some, hfb, Cursor.skip_skip,
    List.length_append]

/-- One parser after another that has no answer to use. -/
theorem seq {p : Parser Unit} {q : Parser β} (hp : Takes p w (v ++ r))
    (hq : Yields q v r Q) : Yields (p >>= fun _ => q) (w ++ v) r Q :=
  hp.bind fun _ _ => hq

/-- A parser that takes nothing here may stand in front. -/
theorem seq_nil {p : Parser Unit} {q : Parser β} (hp : Takes p [] (w ++ r))
    (hq : Yields q w r Q) : Yields (p >>= fun _ => q) w r Q :=
  seq hp hq

theorem pure {a : α} (ha : P a) : Yields (Pure.pure a : Parser α) [] r P := by
  intro at_ _
  exact ⟨a, ha, by rw [pure_apply, List.length_nil, Cursor.skip_zero]⟩

theorem bind_nil (hp : Yields p w r P)
    (hf : ∀ a, P a → Yields (f a) [] r Q) : Yields (p >>= f) w r Q := by
  have h := Yields.bind (v := []) hp hf
  rwa [List.append_nil] at h

/-- The last step of a rule puts its answers together. -/
theorem finish {a : α → β} (hp : Yields p w r P) (ha : ∀ x, P x → Q (a x)) :
    Yields (p >>= fun x => Pure.pure (a x)) w r Q :=
  hp.bind_nil fun x hx => Yields.pure (ha x hx)

theorem orElse_left (hp : Yields p w r P) : Yields (p <|> q) w r P := by
  intro at_ hrest
  obtain ⟨a, ha, hpa⟩ := hp at_ hrest
  exact ⟨a, ha, by rw [orElse_apply, hpa]; rfl⟩

theorem orElse_right (hp : Refuses p (w ++ r)) (hq : Yields q w r P) :
    Yields (p <|> q) w r P := by
  intro at_ hrest
  obtain ⟨a, ha, hqa⟩ := hq at_ hrest
  exact ⟨a, ha, by rw [orElse_apply, hp at_ hrest, hqa]; rfl⟩

theorem take {length? : List Char → Option Nat}
    (h : length? (w ++ r) = some w.length) : Takes (take length?) w r := by
  intro at_ hrest
  refine ⟨(), trivial, ?_⟩
  rw [Parser.take, hrest, h]

end Yields

namespace Refuses

variable {p q : Parser α} {f : α → Parser β} {s w r : List Char}
  {P : α → Prop}

theorem bind (h : Refuses p s) : Refuses (p >>= f) s := by
  intro at_ hrest
  rw [bind_apply, h at_ hrest]
  rfl

theorem of_yields_bind (hp : Yields p w r P)
    (hf : ∀ a, P a → Refuses (f a) r) : Refuses (p >>= f) (w ++ r) := by
  intro at_ hrest
  obtain ⟨a, ha, hpa⟩ := hp at_ hrest
  rw [bind_apply, hpa, Option.bind_some]
  exact hf a ha _ (by rw [Cursor.skip_rest, hrest, List.drop_left])

theorem of_takes_seq {p : Parser Unit} {q : Parser β} (hp : Takes p w r)
    (hq : Refuses q r) : Refuses (p >>= fun _ => q) (w ++ r) :=
  of_yields_bind hp fun _ _ => hq

theorem orElse (hp : Refuses p s) (hq : Refuses q s) :
    Refuses (p <|> q) s := by
  intro at_ hrest
  rw [orElse_apply, hp at_ hrest, hq at_ hrest]
  rfl

theorem take {length? : List Char → Option Nat} (h : length? s = none) :
    Refuses (take length?) s := by
  intro at_ hrest
  rw [Parser.take, hrest, h]

end Refuses

/-! ## Repetition -/

theorem Yields.get {r : List Char} :
    Yields (get : Parser Cursor) [] r fun c => c.rest = r := by
  intro at_ hrest
  exact ⟨at_, hrest, by rw [get_apply, List.length_nil, Cursor.skip_zero]⟩

theorem many_succ (p : Parser α) (fuel : Nat) :
    many p (fuel + 1) =
      ((p >>= fun a => many p fuel >>= fun as => pure (a :: as)) <|>
        pure []) := rfl

/-- A repetition takes item after item.  `F` says what may follow an item: the
next item, and the text at which the repetition stops. -/
theorem Yields.many {p : Parser α} {text : β → List Char}
    {Q : β → α → Prop} {F : List Char → Prop} {bs : List β} {r : List Char}
    {fuel : Nat}
    (hitem : ∀ b ∈ bs, ∀ r, F r → Yields p (text b) r (Q b))
    (hnext : ∀ b ∈ bs, ∀ r, F (text b ++ r)) (hr : F r)
    (hstop : Refuses p r) (hfuel : bs.length ≤ fuel) :
    Yields (many p fuel) (bs.flatMap text) r (List.Forall₂ Q bs) := by
  induction bs generalizing fuel with
  | nil =>
      cases fuel with
      | zero => exact Yields.pure List.Forall₂.nil
      | succ fuel =>
          rw [many_succ]
          exact Yields.orElse_right hstop.bind (Yields.pure List.Forall₂.nil)
  | cons b bs ih =>
      obtain ⟨fuel, rfl⟩ : ∃ k, fuel = k + 1 :=
        ⟨fuel - 1, by simp only [List.length_cons] at hfuel; omega⟩
      have hfollow : F (bs.flatMap text ++ r) := by
        cases bs with
        | nil => exact hr
        | cons b' bs =>
            rw [List.flatMap_cons, List.append_assoc]
            exact hnext b' (by simp) _
      have hrest : Yields (Parser.many p fuel) (bs.flatMap text) r
          (List.Forall₂ Q bs) :=
        ih (fun b' hb' => hitem b' (by simp [hb']))
          (fun b' hb' => hnext b' (by simp [hb']))
          (by simp only [List.length_cons] at hfuel; omega)
      rw [many_succ, List.flatMap_cons]
      refine Yields.orElse_left ((hitem b (by simp) _ hfollow).bind ?_)
      intro a ha
      exact hrest.finish fun as has => List.Forall₂.cons ha has

theorem intercalate_cons_eq (sp x : List Char) (xs : List (List Char)) :
    sp.intercalate (x :: xs) = x ++ xs.flatMap (sp ++ ·) := by
  induction xs generalizing x with
  | nil => simp
  | cons y ys ih =>
      rw [List.intercalate_cons_cons, ih y, List.flatMap_cons]
      simp

theorem length_le_flatMap_length (text : β → List Char) {bs : List β}
    (h : ∀ b ∈ bs, text b ≠ []) : bs.length ≤ (bs.flatMap text).length := by
  induction bs with
  | nil => simp
  | cons b bs ih =>
      have hpos : 0 < (text b).length := List.length_pos_iff.2 (h b (by simp))
      have := ih fun b' hb' => h b' (by simp [hb'])
      simp only [List.flatMap_cons, List.length_append, List.length_cons]
      omega

/-- Items between separators.  `F` says what may follow an item. -/
theorem Yields.sepBy {p : Parser α} {sep : Parser Unit} {sp : List Char}
    {text : β → List Char} {Q : β → α → Prop} {F : List Char → Prop} {b : β}
    {bs : List β} {r : List Char}
    (hitem : ∀ x ∈ b :: bs, ∀ r, F r → Yields p (text x) r (Q x))
    (hsep : ∀ x ∈ bs, ∀ r, Takes sep sp (text x ++ r))
    (hnext : ∀ x ∈ bs, ∀ r, F (sp ++ text x ++ r)) (hr : F r)
    (hstop : Refuses (sep >>= fun _ => p) r) (hsp : sp ≠ []) :
    Yields (sepBy p sep) (sp.intercalate ((b :: bs).map text)) r
      (List.Forall₂ Q (b :: bs)) := by
  have htail : (bs.map text).flatMap (sp ++ ·) =
      bs.flatMap fun x => sp ++ text x := by
    rw [List.flatMap_map]
  have hfollow : F ((bs.flatMap fun x => sp ++ text x) ++ r) := by
    cases bs with
    | nil => exact hr
    | cons x xs =>
        rw [List.flatMap_cons, List.append_assoc]
        exact hnext x (by simp) _
  rw [List.map_cons, intercalate_cons_eq, htail]
  refine (hitem b (by simp) _ hfollow).bind fun a ha => ?_
  refine Yields.bind (w := []) (v := bs.flatMap fun x => sp ++ text x)
    Yields.get fun c hc => ?_
  have hfuel : bs.length ≤ c.rest.length := by
    have hle : bs.length ≤ (bs.flatMap fun x => sp ++ text x).length :=
      length_le_flatMap_length _ fun x _ => by simp [hsp]
    rw [hc, List.length_append]
    omega
  have hmany : Yields (Parser.many (sep >>= fun _ => p) c.rest.length)
      (bs.flatMap fun x => sp ++ text x) r (List.Forall₂ Q bs) :=
    Yields.many (F := F)
      (fun x hx r' hr' => (hsep x hx r').seq (hitem x (by simp [hx]) r' hr'))
      hnext hr hstop hfuel
  exact hmany.finish fun as has => List.Forall₂.cons ha has

/-! ## Unknown sources -/

/-- Whatever the parser takes, it takes at least `d` characters. -/
def Shortens (d : Nat) (p : Parser α) : Prop :=
  ∀ at_ a stop, p at_ = some (a, stop) →
    stop.rest.length + d ≤ at_.rest.length

namespace Shortens

variable {p q : Parser α} {f : α → Parser β} {d e : Nat}

theorem weaken (h : Shortens d p) : Shortens 0 p := by
  intro at_ a stop hp
  have := h at_ a stop hp
  omega

/-- What takes something refuses the empty text. -/
theorem refuses_nil (h : Shortens 1 p) : Refuses p [] := by
  intro c hc
  cases hsome : p c with
  | none => rfl
  | some answer =>
      have hshort := h c answer.1 answer.2 hsome
      simp [hc] at hshort

theorem bind (hp : Shortens d p) (hf : ∀ a, Shortens e (f a)) :
    Shortens (d + e) (p >>= f) := by
  intro at_ b stop h
  obtain ⟨a, mid, hpa, hfa⟩ := bind_eq_some.1 h
  have h₁ := hp at_ a mid hpa
  have h₂ := hf a mid b stop hfa
  omega

/-- The first of two parsers takes enough. -/
theorem bind_left (hp : Shortens d p) (hf : ∀ a, Shortens 0 (f a)) :
    Shortens d (p >>= f) := hp.bind hf

theorem pure (a : α) : Shortens 0 (Pure.pure a : Parser α) := by
  intro at_ b stop h
  obtain ⟨-, rfl⟩ := pure_eq_some.1 h
  exact le_rfl

theorem get : Shortens 0 (MonadState.get : Parser Cursor) := by
  intro at_ c stop h
  obtain ⟨-, rfl⟩ := get_eq_some.1 h
  exact le_rfl

theorem orElse (hp : Shortens d p) (hq : Shortens d q) :
    Shortens d (p <|> q) := by
  intro at_ a stop h
  rcases orElse_eq_some.1 h with h | ⟨-, h⟩
  · exact hp at_ a stop h
  · exact hq at_ a stop h

theorem take_zero (length? : List Char → Option Nat) :
    Shortens 0 (take length?) := by
  intro at_ a stop h
  obtain ⟨n, -, rfl⟩ := take_eq_some.1 h
  simp

/-- A terminal that is never empty. -/
theorem take_one {length? : List Char → Option Nat}
    (h : ∀ s n, length? s = some n → 1 ≤ n ∧ s ≠ []) :
    Shortens 1 (take length?) := by
  intro at_ a stop hp
  obtain ⟨n, hn, rfl⟩ := take_eq_some.1 hp
  obtain ⟨hpos, hne⟩ := h _ n hn
  have hlen : 0 < at_.rest.length := List.length_pos_iff.2 hne
  simp only [Cursor.skip_rest, List.length_drop]
  omega

theorem many (hp : Shortens 0 p) (fuel : Nat) : Shortens 0 (many p fuel) := by
  induction fuel with
  | zero => exact pure []
  | succ fuel ih =>
      rw [many_succ]
      exact ((hp.bind fun a => ih.bind fun as => pure (a :: as))).orElse
        (pure [])

theorem sepBy {sep : Parser Unit} (hp : Shortens d p) (hsep : Shortens 0 sep) :
    Shortens d (sepBy p sep) :=
  hp.bind_left fun a => get.bind fun c =>
    (many (hsep.bind fun _ => hp.weaken) c.rest.length).bind fun as =>
      pure (a :: as)

end Shortens

/-- The two parsers do the same where at most `k` characters are left. -/
def Same (k : Nat) (p q : Parser α) : Prop :=
  ∀ at_ : Cursor, at_.rest.length ≤ k → p at_ = q at_

namespace Same

variable {p p' q q' : Parser α} {f f' : α → Parser β} {k d : Nat}

theorem refl (p : Parser α) : Same k p p := fun _ _ => rfl

/-- What stands behind a parser that takes `d` characters is looked at with
`d` fewer characters left. -/
theorem bind (hp : Same (k + d) p p') (hd : Shortens d p)
    (hf : ∀ a, Same k (f a) (f' a)) :
    Same (k + d) (p >>= f) (p' >>= f') := by
  intro at_ hk
  rw [bind_apply, bind_apply, ← hp at_ hk]
  cases hpa : p at_ with
  | none => rfl
  | some answer =>
      obtain ⟨a, mid⟩ := answer
      have hshort := hd at_ a mid hpa
      exact hf a mid (by omega)

theorem bind_left (hp : Same k p p') : Same k (p >>= f) (p' >>= f) := by
  intro at_ hk
  rw [bind_apply, bind_apply, hp at_ hk]

theorem bind_right (hp : Shortens 0 p) (hf : ∀ a, Same k (f a) (f' a)) :
    Same k (p >>= f) (p >>= f') :=
  bind (d := 0) (refl p) hp hf

theorem orElse (hp : Same k p p') (hq : Same k q q') :
    Same k (p <|> q) (p' <|> q') := by
  intro at_ hk
  rw [orElse_apply, orElse_apply, hp at_ hk, hq at_ hk]

theorem many (hp : Same k p p') (hs : Shortens 0 p) (fuel : Nat) :
    Same k (many p fuel) (many p' fuel) := by
  induction fuel with
  | zero => exact refl _
  | succ fuel ih =>
      rw [many_succ, many_succ]
      refine orElse ?_ (refl _)
      exact bind (d := 0) hp hs fun _ => bind (d := 0) ih (hs.many fuel)
        fun _ => refl _

theorem sepBy {sep : Parser Unit} (hp : Same k p p') (hs : Shortens 0 p)
    (hsep : Shortens 0 sep) : Same k (sepBy p sep) (sepBy p' sep) :=
  bind (d := 0) hp hs fun _ => bind_right Shortens.get fun c =>
    bind (d := 0)
      (many (bind_right hsep fun _ => hp) (hsep.bind fun _ => hs) c.rest.length)
      (Shortens.many (hsep.bind fun _ => hs) c.rest.length) fun _ => refl _

end Same

end Parser

/-! ## Elements -/

namespace Grammar

open TextShell.Parser

/-- The element of a rule that has matched `text`, at some place. -/
def IsElement (tag : Tag) (text : List Char) (children : List Element)
    (e : Element) : Prop :=
  ∃ line col : Nat,
    e = .mk tag (some (.text (String.ofList text))) (.integer line)
      (.integer col) children none

theorem element_eq_some {p : Parser (Tag × List Element)} {at_ stop : Cursor}
    {e : Element} :
    element p at_ = some (e, stop) ↔
      ∃ tag children, p at_ = some ((tag, children), stop) ∧
        e = .mk tag (some (.text (String.ofList
            (at_.rest.take (stop.offset - at_.offset)))))
          (.integer at_.line) (.integer at_.col) children none := by
  have hunfold : element p at_ =
      (p at_).bind fun answer => some (Element.mk answer.1.1
        (some (.text (String.ofList
          (at_.rest.take (answer.2.offset - at_.offset)))))
        (.integer at_.line) (.integer at_.col) answer.1.2 none, answer.2) := rfl
  rw [hunfold, Option.bind_eq_some_iff]
  constructor
  · rintro ⟨⟨⟨tag, children⟩, mid⟩, hp, heq⟩
    simp only [Option.some.injEq, Prod.mk.injEq] at heq
    obtain ⟨rfl, rfl⟩ := heq
    exact ⟨tag, children, hp, rfl⟩
  · rintro ⟨tag, children, hp, rfl⟩
    exact ⟨_, hp, rfl⟩

theorem tagged_eq_some {tag : Tag} {p : Parser (List Element)}
    {at_ stop : Cursor} {e : Element} :
    tagged tag p at_ = some (e, stop) ↔
      ∃ children, p at_ = some (children, stop) ∧
        e = .mk tag (some (.text (String.ofList
            (at_.rest.take (stop.offset - at_.offset)))))
          (.integer at_.line) (.integer at_.col) children none := by
  rw [tagged, element_eq_some]
  constructor
  · rintro ⟨tag', children, hp, rfl⟩
    obtain ⟨children', mid, hchildren, hpure⟩ := bind_eq_some.1 hp
    obtain ⟨heq, rfl⟩ := pure_eq_some.1 hpure
    obtain ⟨rfl, rfl⟩ := Prod.mk.inj heq
    exact ⟨children', hchildren, rfl⟩
  · rintro ⟨children, hp, rfl⟩
    exact ⟨tag, children, bind_eq_some.2 ⟨children, stop, hp, rfl⟩, rfl⟩

theorem tag_of_tagged {tag : Tag} {p : Parser (List Element)} {at_ stop : Cursor} {e : Element}
    (h : tagged tag p at_ = some (e, stop)) : e.tag = tag := by
  obtain ⟨children, -, rfl⟩ := tagged_eq_some.1 h
  rfl

theorem leaf_eq_some {tag : Tag} {length? : List Char → Option Nat}
    (hle : ∀ s n, length? s = some n → n ≤ s.length) {at_ stop : Cursor}
    {e : Element} :
    leaf tag (take length?) at_ = some (e, stop) ↔
      ∃ n, length? at_.rest = some n ∧ stop = at_.skip n ∧
        e = .mk tag (some (.text (String.ofList (at_.rest.take n))))
          (.integer at_.line) (.integer at_.col) [] none := by
  rw [leaf, element_eq_some]
  constructor
  · rintro ⟨tag', children, hp, rfl⟩
    obtain ⟨u, mid, htake, hpure⟩ := bind_eq_some.1 hp
    obtain ⟨heq, rfl⟩ := pure_eq_some.1 hpure
    obtain ⟨rfl, rfl⟩ := Prod.mk.inj heq
    obtain ⟨n, hn, rfl⟩ := take_eq_some.1 htake
    refine ⟨n, hn, rfl, ?_⟩
    rw [Cursor.skip_offset (hle _ _ hn), Nat.add_sub_cancel_left]
  · rintro ⟨n, hn, rfl, rfl⟩
    refine ⟨tag, [], bind_eq_some.2 ⟨(), _, take_eq_some.2 ⟨n, hn, rfl⟩, rfl⟩, ?_⟩
    rw [Cursor.skip_offset (hle _ _ hn), Nat.add_sub_cancel_left]

end Grammar

namespace Parser

theorem Yields.element {p : Parser (Tag × List Element)} {w r : List Char}
    {Q : Tag → List Element → Prop}
    (h : Yields p w r fun answer => Q answer.1 answer.2) :
    Yields (Grammar.element p) w r fun e =>
      ∃ tag children, Q tag children ∧ Grammar.IsElement tag w children e := by
  intro at_ hrest
  obtain ⟨⟨tag, children⟩, hQ, hp⟩ := h at_ hrest
  refine ⟨_, ⟨tag, children, hQ, at_.line, at_.col, rfl⟩, ?_⟩
  refine Grammar.element_eq_some.2 ⟨tag, children, hp, ?_⟩
  have hle : w.length ≤ at_.rest.length := by simp [hrest]
  rw [Cursor.skip_offset hle, Nat.add_sub_cancel_left, hrest, List.take_left]

theorem Yields.tagged (tag : Tag) {p : Parser (List Element)}
    {w r : List Char} {Q : List Element → Prop} (h : Yields p w r Q) :
    Yields (Grammar.tagged tag p) w r fun e =>
      ∃ children, Q children ∧ Grammar.IsElement tag w children e := by
  have hpair : Yields (p >>= fun children => Pure.pure (tag, children)) w r
      fun answer => answer.1 = tag ∧ Q answer.2 :=
    h.finish fun children hQ => ⟨rfl, hQ⟩
  refine (Yields.element (Q := fun t children => t = tag ∧ Q children)
    hpair).mono ?_
  rintro e ⟨tag', children, ⟨rfl, hQ⟩, he⟩
  exact ⟨children, hQ, he⟩

theorem Yields.leaf (tag : Tag) {p : Parser Unit} {w r : List Char}
    (h : Takes p w r) : Yields (Grammar.leaf tag p) w r (Grammar.IsElement tag w []) := by
  have hpair : Yields
      (p >>= fun _ => (Pure.pure (tag, []) : Parser (Tag × List Element))) w r
      fun answer => answer.1 = tag ∧ answer.2 = [] :=
    h.finish fun _ _ => ⟨rfl, rfl⟩
  refine (Yields.element (Q := fun t children => t = tag ∧ children = [])
    hpair).mono ?_
  rintro e ⟨tag', children, ⟨rfl, rfl⟩, he⟩
  exact he

theorem Refuses.element {p : Parser (Tag × List Element)} {s : List Char}
    (h : Refuses p s) : Refuses (Grammar.element p) s := by
  intro at_ hrest
  have hnone := h at_ hrest
  cases he : Grammar.element p at_ with
  | none => rfl
  | some answer =>
      obtain ⟨e, stop⟩ := answer
      obtain ⟨tag, children, hp, -⟩ := Grammar.element_eq_some.1 he
      simp [hnone] at hp

theorem Refuses.tagged {tag : Tag} {p : Parser (List Element)}
    {s : List Char} (h : Refuses p s) : Refuses (Grammar.tagged tag p) s :=
  Refuses.element (Refuses.bind h)

theorem Refuses.leaf {tag : Tag} {p : Parser Unit} {s : List Char}
    (h : Refuses p s) : Refuses (Grammar.leaf tag p) s :=
  Refuses.element (Refuses.bind h)

theorem Shortens.element {d : Nat} {p : Parser (Tag × List Element)}
    (h : Shortens d p) : Shortens d (Grammar.element p) := by
  intro at_ e stop he
  obtain ⟨tag, children, hp, -⟩ := Grammar.element_eq_some.1 he
  exact h at_ _ stop hp

theorem Shortens.tagged {d : Nat} {tag : Tag} {p : Parser (List Element)}
    (h : Shortens d p) : Shortens d (Grammar.tagged tag p) :=
  Shortens.element (h.bind_left fun _ => Shortens.pure _)

theorem Shortens.leaf {d : Nat} {tag : Tag} {p : Parser Unit}
    (h : Shortens d p) : Shortens d (Grammar.leaf tag p) :=
  Shortens.element (h.bind_left fun _ => Shortens.pure _)

theorem Same.element {k : Nat} {p q : Parser (Tag × List Element)}
    (h : Same k p q) : Same k (Grammar.element p) (Grammar.element q) := by
  intro at_ hk
  have hpq := h at_ hk
  unfold Grammar.element
  simp only [bind_apply, get_apply, Option.bind_some, hpq]

theorem Same.tagged {k : Nat} {tag : Tag} {p q : Parser (List Element)}
    (h : Same k p q) :
    Same k (Grammar.tagged tag p) (Grammar.tagged tag q) :=
  Same.element h.bind_left

end Parser

end TextShell
