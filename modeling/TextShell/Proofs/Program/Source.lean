import TextShell.Proofs.Program.RoundTrip
import TextShell.Proofs.Program.Statements

/-!
# Sources as texts of items

Whether a source is accepted, and the program it gives up to places, is a matter of
its text: it is a gap, items with ends of statements between them, and a gap.

## Main results

* `Program.parse_iff_source` — a source is accepted where its text is made up of items,
  and its program is that of the items.
* `ofElements_append` — the program of items is put together of the programs of its parts.
-/

namespace TextShell

/-! ## Programs without places -/

/-- The definition without the places in it. -/
def FunctionOf.unplaced {ν : Type} (f : FunctionOf ν) : FunctionOf ν :=
  ⟨f.name, f.params, f.body.bare, f.source, none⟩

/-- The program without places. -/
def ProgramOf.unplaced {ν : Type} (p : ProgramOf ν) : ProgramOf ν :=
  ⟨p.functions.map FunctionOf.unplaced, p.executions.map Tree.bare⟩

/-- One program followed by another. -/
instance {ν : Type} : Append (ProgramOf ν) where
  append p q := ⟨p.functions ++ q.functions, p.executions ++ q.executions⟩

theorem ProgramOf.append_def {ν : Type} (p q : ProgramOf ν) :
    p ++ q = ⟨p.functions ++ q.functions, p.executions ++ q.executions⟩ := rfl

theorem bind_eq_ok {ε α β : Type} {x : Except ε α} {f : α → Except ε β} {b : β} :
    x >>= f = .ok b ↔ ∃ a, x = .ok a ∧ f a = .ok b := by
  cases x with
  | error e => simp [bind, Except.bind]
  | ok a => simp [bind, Except.bind]

namespace Element

variable {ν : Type} {named : Document → Except SourceError ν}

@[simp] theorem text_unplaced (e : Element) : e.unplaced.text = e.text := by
  cases e
  rfl

@[simp] theorem tag_unplaced (e : Element) : e.unplaced.tag = e.tag := by
  cases e
  rfl

theorem template_unplaced {e : Element} {expand : Bool} {n : Tree ν}
    (h : e.template expand = .ok n) : e.unplaced.template expand = .ok n.bare := by
  rw [template, text_unplaced]
  obtain ⟨d, hd, h⟩ := bind_eq_ok.1 h
  refine bind_eq_ok.2 ⟨d, hd, ?_⟩
  split at h
  · obtain rfl := Except.ok.inj h
    rfl
  · cases h

/-- The node of an element differs with the place of the element in its places only. -/
theorem toNode_unplaced_and :
    (∀ (e : Element) (n : Tree ν), e.toNode named = .ok n →
      e.unplaced.toNode named = .ok n.bare) ∧
    ∀ (es : List Element) (nodes : List (Tree ν)), toNodes named es = .ok nodes →
      toNodes named (unplacedList es) = .ok (Tree.bareList nodes) := by
  apply toNode.mutual_induct
  case case1 => simp [toNode]
  case case2 | case3 | case4 =>
    intro text line col children _ n h
    rw [toNode] at h
    rw [unplaced, toNode]
    exact template_unplaced h
  case case5 =>
    intro text line col parts _ ih n
    simp only [toNode, unplaced, bind_eq_ok]
    rintro ⟨nodes, hnodes, h⟩
    obtain rfl := Except.ok.inj h
    exact ⟨_, ih nodes hnodes, rfl⟩
  case case6 =>
    intro text line col target list separator body _ hlist hbody hseparator n
    simp only [toNode, unplaced, unplacedList, bind_eq_ok, text_unplaced]
    rintro ⟨d, hd, name, hname, l, hl, b, hb, s, hs, h⟩
    obtain rfl := Except.ok.inj h
    exact ⟨d, hd, name, hname, _, hlist l hl, _, hbody b hb, _, hseparator s hs, rfl⟩
  case case7 =>
    intro text line col target list body _ hlist hbody n
    simp only [toNode, unplaced, unplacedList, bind_eq_ok, text_unplaced]
    rintro ⟨d, hd, name, hname, l, hl, b, hb, h⟩
    obtain rfl := Except.ok.inj h
    exact ⟨d, hd, name, hname, _, hlist l hl, _, hbody b hb, rfl⟩
  case case8 =>
    intro text line col condition trueBody falseBody _ hcondition htrue hfalse n
    simp only [toNode, unplaced, unplacedList, bind_eq_ok]
    rintro ⟨c, hc, t, ht, f, hf, h⟩
    obtain rfl := Except.ok.inj h
    exact ⟨_, hcondition c hc, _, htrue t ht, _, hfalse f hf, rfl⟩
  case case9 | case10 =>
    intro text line col condition body _ hcondition hbody n
    simp only [toNode, unplaced, unplacedList, bind_eq_ok]
    rintro ⟨c, hc, b, hb, h⟩
    obtain rfl := Except.ok.inj h
    exact ⟨_, hcondition c hc, _, hbody b hb, rfl⟩
  case case11 =>
    intro text line col target held _ hheld n
    simp only [toNode, unplaced, unplacedList, bind_eq_ok, text_unplaced]
    rintro ⟨d, hd, name, hname, v, hv, h⟩
    obtain rfl := Except.ok.inj h
    exact ⟨d, hd, name, hname, _, hheld v hv, rfl⟩
  case case12 | case14 =>
    intro text line col _ n
    simp only [toNode, unplaced, unplacedList]
    intro h
    obtain rfl := Except.ok.inj h
    rfl
  case case13 | case15 =>
    intro text line col held rest _ hheld n
    simp only [toNode, unplaced, unplacedList, bind_eq_ok]
    rintro ⟨v, hv, h⟩
    obtain rfl := Except.ok.inj h
    exact ⟨_, hheld v hv, rfl⟩
  case case16 =>
    intro text line col head arguments htag _ harguments n
    simp only [toNode, unplaced, unplacedList, tag_unplaced, text_unplaced, if_pos htag, bind_eq_ok]
    rintro ⟨nodes, hnodes, d, hd, name, hname, h⟩
    obtain rfl := Except.ok.inj h
    exact ⟨_, harguments nodes hnodes, d, hd, name, hname, rfl⟩
  case case17 =>
    intro text line col head arguments htag _ n
    simp [toNode, htag]
  case case18 =>
    intro tag text line col children
    intros
    rename_i h
    rw [toNode] at h
    · cases h
    all_goals assumption
  case case19 => simp [toNodes, Tree.bareList, unplacedList]
  case case20 =>
    intro e rest he hrest nodes
    simp only [toNodes, unplacedList, bind_eq_ok]
    rintro ⟨n, hn, nodes, hnodes, h⟩
    obtain rfl := Except.ok.inj h
    exact ⟨_, he n hn, _, hrest nodes hnodes, rfl⟩

theorem toNode_unplaced {e : Element} {n : Tree ν} (h : e.toNode named = .ok n) :
    e.unplaced.toNode named = .ok n.bare :=
  toNode_unplaced_and.1 e n h

/-- What has been found of a function's definition, without places. -/
def FunctionParts.unplaced (parts : FunctionParts ν) : FunctionParts ν :=
  { parts with body := parts.body.map Tree.bare }

theorem param_unplaced (e : Element) : e.unplaced.param = e.param := by
  rw [param, param, text_unplaced]

theorem FunctionParts.add_unplaced {parts parts' : FunctionParts ν} {e : Element}
    (h : parts.add named e = .ok parts') :
    parts.unplaced.add named e.unplaced = .ok parts'.unplaced := by
  rw [add] at h ⊢
  rw [tag_unplaced, text_unplaced, param_unplaced]
  split at h
  · obtain ⟨name, hname, h⟩ := bind_eq_ok.1 h
    obtain rfl := Except.ok.inj h
    exact bind_eq_ok.2 ⟨name, hname, rfl⟩
  · obtain ⟨p, hp, h⟩ := bind_eq_ok.1 h
    obtain rfl := Except.ok.inj h
    exact bind_eq_ok.2 ⟨p, hp, rfl⟩
  · obtain ⟨n, hn, h⟩ := bind_eq_ok.1 h
    obtain rfl := Except.ok.inj h
    exact bind_eq_ok.2 ⟨_, toNode_unplaced hn, rfl⟩
  · obtain rfl := Except.ok.inj h
    rfl

theorem foldlM_add_unplaced {parts parts' : FunctionParts ν} {es : List Element}
    (h : es.foldlM (FunctionParts.add named) parts = .ok parts') :
    (es.map unplaced).foldlM (FunctionParts.add named) parts.unplaced = .ok parts'.unplaced := by
  induction es generalizing parts with
  | nil =>
      obtain rfl := Except.ok.inj h
      rfl
  | cons e es ih =>
      rw [List.foldlM_cons] at h
      obtain ⟨parts₁, h₁, h⟩ := bind_eq_ok.1 h
      rw [List.map_cons, List.foldlM_cons]
      exact bind_eq_ok.2 ⟨_, FunctionParts.add_unplaced h₁, ih h⟩

theorem toFunction_unplaced {e : Element} {f : FunctionOf ν} (h : e.toFunction named = .ok f) :
    e.unplaced.toFunction named = .ok f.unplaced := by
  obtain ⟨tag, text, line, col, children, fault⟩ := e
  obtain ⟨parts, hparts, h⟩ := bind_eq_ok.1 h
  rw [unplaced_mk]
  refine bind_eq_ok.2 ⟨parts.unplaced, foldlM_add_unplaced hparts, ?_⟩
  cases fault with
  | some fault => cases h
  | none =>
      obtain ⟨name, params, body⟩ := parts
      dsimp only [fault?, text?, FunctionParts.unplaced] at h ⊢
      split at h
      · cases h
      · cases h
      · next body hname =>
        rw [Option.map_some]
        split
        · exact absurd rfl hname
        · next hnone => cases hnone
        · next body' _ hbody =>
          obtain rfl := Option.some.inj hbody
          split at h
          all_goals
            simp only [bind_eq_ok] at h ⊢
          · obtain ⟨source, hsource, name', hname', h⟩ := h
            obtain rfl := Except.ok.inj h
            exact ⟨source, hsource, name', hname', rfl⟩
          · obtain ⟨source, hsource, name', hname', h⟩ := h
            obtain rfl := Except.ok.inj h
            exact ⟨source, hsource, name', hname', rfl⟩
          · obtain ⟨d, hd, source, hsource, name', hname', h⟩ := h
            obtain rfl := Except.ok.inj h
            exact ⟨d, hd, source, hsource, name', hname', rfl⟩

end Element

/-! ## Programs of elements -/

variable {ν : Type} {named : Document → Except SourceError ν}

theorem ofElements_unplaced {es : List Element} {p : ProgramOf ν}
    (h : ProgramOf.ofElements named es = .ok p) :
    ProgramOf.ofElements named (es.map Element.unplaced) = .ok p.unplaced := by
  induction es generalizing p with
  | nil =>
      obtain rfl := Except.ok.inj h
      rfl
  | cons e es ih =>
      rw [List.map_cons]
      rw [ProgramOf.ofElements.eq_def] at h ⊢
      dsimp only at h ⊢
      rw [Element.tag_unplaced]
      split at h
      · obtain ⟨f, hf, h⟩ := bind_eq_ok.1 h
        obtain ⟨q, hq, h⟩ := bind_eq_ok.1 h
        obtain rfl := Except.ok.inj h
        exact bind_eq_ok.2 ⟨_, Element.toFunction_unplaced hf, bind_eq_ok.2 ⟨_, ih hq, rfl⟩⟩
      · obtain ⟨n, hn, h⟩ := bind_eq_ok.1 h
        obtain ⟨q, hq, h⟩ := bind_eq_ok.1 h
        obtain rfl := Except.ok.inj h
        exact bind_eq_ok.2 ⟨_, Element.toNode_unplaced hn, bind_eq_ok.2 ⟨_, ih hq, rfl⟩⟩

/-- The program of items is put together of the programs of its parts. -/
theorem ofElements_append (es es' : List Element) :
    ProgramOf.ofElements named (es ++ es') = (do
      let p ← ProgramOf.ofElements named es
      let q ← ProgramOf.ofElements named es'
      return p ++ q) := by
  induction es with
  | nil =>
      rw [List.nil_append, ProgramOf.ofElements.eq_1]
      exact (bind_pure _).symm
  | cons e es ih =>
      rw [List.cons_append, ProgramOf.ofElements.eq_def named (e :: (es ++ es')),
        ProgramOf.ofElements.eq_def named (e :: es)]
      dsimp only
      split
      · simp only [ih, bind_assoc, pure_bind]
        rfl
      · simp only [ih, bind_assoc, pure_bind]
        rfl

theorem ofElements_append_eq_ok {es es' : List Element} {p : ProgramOf ν} :
    ProgramOf.ofElements named (es ++ es') = .ok p ↔
      ∃ q q', ProgramOf.ofElements named es = .ok q ∧
        ProgramOf.ofElements named es' = .ok q' ∧ q ++ q' = p := by
  rw [ofElements_append, bind_eq_ok]
  simp only [bind_eq_ok]
  constructor
  · rintro ⟨q, hq, q', hq', h⟩
    exact ⟨q, q', hq, hq', Except.ok.inj h⟩
  · rintro ⟨q, q', hq, hq', rfl⟩
    exact ⟨q, hq, q', hq', rfl⟩

namespace Grammar

open TextShell.Parser Element

variable {s : List Char} {vs : List Element}

theorem same_functionRule {execution execution' : Parser Element} {k : Nat}
    (hx : Same k execution execution') (sx : Shortens 0 execution) :
    Same k (functionRule execution) (functionRule execution') :=
  Same.tagged <|
    Same.bind_right (shortens_keyword (by simp)).weaken fun _ =>
    Same.bind_right shortens_space fun _ =>
    Same.bind_right shortens_functionName.weaken fun _ =>
    Same.bind_right shortens_blank fun _ =>
    Same.bind_right (shortens_char '(').weaken fun _ =>
    Same.bind_right shortens_blank fun _ =>
    Same.bind_right ((shortens_formalParam.sepBy shortens_comma).orElse (Shortens.pure []))
      fun _ =>
    Same.bind_right shortens_blank fun _ =>
    Same.bind_right (shortens_char ')').weaken fun _ =>
    Same.bind_right shortens_blank fun _ =>
    Same.bind_left fun c hc => same_block hx sx c (by omega)

/-- What stands behind an item: the end of a statement and another item. -/
abbrev nextItem : Parser Element := separator >>= fun _ => item

/-- The items of a source. -/
def program : Parser (List Element) := do
  gap
  let items ← sepBy item separator <|> pure []
  gap
  return items

theorem uniform_program : Uniform (List.map unplaced) program :=
  .seq (.take _) <|
    ((uniform_item.sepBy uniform_separator).orElse (.pure rfl)).bind fun _ _ hitems =>
    .seq (.take _) (.pure hitems)

theorem same_program (k : Nat) :
    Same k (programRule (Rule.value.parse (k + 1)) (Rule.execution.parse (k + 1))) program := by
  have hshort (rule : Rule) : Shortens 0 (rule.parse (k + 1)) := (shortens_parse _ rule).weaken
  have hexecution := parse_same_reader k .execution
  have hrule : Same k (executionRule (Rule.value.parse (k + 1)) (Rule.execution.parse (k + 1)))
      execution := by
    rw [execution_eq]
    exact fun c hc => same_executionRule (parse_same_reader k .value) (hshort _) hexecution
      (hshort _) c (by omega)
  have hitem := (same_functionRule hexecution (hshort _)).orElse hrule
  have hshortItem := (shortens_functionRule (hshort .execution)).weaken.orElse
    (shortens_executionRule (hshort .value) (hshort .execution)).weaken
  exact Same.bind_right shortens_gap fun _ =>
    ((hitem.sepBy hshortItem shortens_separator).orElse (Same.refl _)).bind_left

/-- The items of a source are a matter of its text, up to places. -/
theorem items?_iff_reads {source : String} :
    (∃ es, items? source = some es ∧ es.map unplaced = vs) ↔
      Reads (List.map unplaced) program source.toList [] vs := by
  simp only [items?_eq_some, same_program _ { rest := source.toList } le_rfl]
  constructor
  · rintro ⟨es, ⟨stop, hes, hstop⟩, rfl⟩
    rcases uniform_program.cases source.toList with hnone | ⟨w, r, a, htext, hreads⟩
    · rw [hnone _ rfl] at hes
      cases hes
    · obtain ⟨a', ha', hsome⟩ := hreads { rest := source.toList } htext
      rw [hsome] at hes
      obtain ⟨rfl, rfl⟩ := Prod.mk.inj (Option.some.inj hes)
      obtain rfl : r = [] := by
        simpa [htext] using hstop
      rw [htext, List.append_nil, ha']
      exact hreads
  · intro h
    obtain ⟨es, hes, hsome⟩ := h { rest := source.toList } (List.append_nil _).symm
    exact ⟨es, ⟨_, hsome, by simp⟩, hes⟩

/-- The text is a source of these items. -/
inductive Source : List Char → List Element → Prop
  | empty {g : List Char} (hgap : Takes gap g []) : Source g []
  | items {g w ws g' : List Char} {v : Element} {vs : List Element}
      (hgap : Takes gap g (w ++ (ws ++ g'))) (hfirst : Reads unplaced item w (ws ++ g') v)
      (hrest : Steps unplaced nextItem g' ws vs) (hstop : Refuses nextItem g')
      (hend : Takes gap g' []) : Source (g ++ (w ++ (ws ++ g'))) (v :: vs)

theorem reads_sepBy_item_iff {w r : List Char} :
    Reads (List.map unplaced) (sepBy item separator) w r vs ↔
      ∃ w₁ ws v vs', w = w₁ ++ ws ∧ vs = v :: vs' ∧ Reads unplaced item w₁ (ws ++ r) v ∧
        Steps unplaced nextItem r ws vs' ∧ Refuses nextItem r := by
  have hnext : Uniform unplaced nextItem := .seq uniform_separator uniform_item
  have hshort : Shortens 1 nextItem := shortens_separator.bind fun _ => shortens_item
  rw [sepBy_eq]
  constructor
  · intro h
    have htail (first first' : Element) (hfirst : unplaced first = unplaced first') :
        Alike (List.map unplaced) (exhaust nextItem >>= fun rest => pure (first :: rest))
          (exhaust nextItem >>= fun rest => pure (first' :: rest)) :=
      hnext.exhaust.bind fun _ _ hrest => .pure (by simp [hfirst, hrest])
    obtain ⟨w₁, ws, v, rfl, hfirst, h⟩ := uniform_item.reads_bind htail h
    obtain ⟨ws, w₂, as, rfl, hrest, h⟩ :=
      hnext.exhaust.reads_bind (fun _ _ hrest => .pure (by simp [hrest])) h
    obtain ⟨rfl, rfl⟩ := reads_pure h
    rw [List.append_nil] at hfirst ⊢
    exact ⟨w₁, ws, _, _, rfl, rfl, hfirst, (hnext.reads_exhaust_iff hshort).1 hrest⟩
  · rintro ⟨w₁, ws, v, vs', rfl, rfl, hfirst, hrest⟩
    refine hfirst.bind fun a ha => ?_
    refine ((hnext.reads_exhaust_iff hshort).2 hrest).finish fun as has => ?_
    rw [List.map_cons, ha, has]

theorem reads_program_iff : Reads (List.map unplaced) program s [] vs ↔ Source s vs := by
  have hitems : Uniform (List.map unplaced) (sepBy item separator) :=
    uniform_item.sepBy uniform_separator
  constructor
  · intro h
    have hend (items items' : List Element) (h : items.map unplaced = items'.map unplaced) :
        Alike (List.map unplaced) (gap >>= fun _ => pure items) (gap >>= fun _ => pure items') :=
      .seq (.take _) (.pure h)
    obtain ⟨g, w, rfl, hgap, h⟩ :=
      Alike.reads_seq (Alike.take _) ((hitems.orElse (.pure rfl)).bind hend) h
    obtain ⟨w, w', items, rfl, hfound, h⟩ := (hitems.orElse (.pure rfl)).reads_bind hend h
    obtain ⟨g', w', rfl, hgap', h⟩ := Alike.reads_seq (Alike.take _) (.pure rfl) h
    obtain ⟨rfl, rfl⟩ := reads_pure h
    simp only [List.append_nil] at hgap hfound hgap' ⊢
    rcases hitems.reads_orElse hfound with hfound | ⟨-, hfound⟩
    · obtain ⟨w, ws, v, vs, rfl, hvs, hfirst, hrest, hstop⟩ := reads_sepBy_item_iff.1 hfound
      rw [List.append_assoc] at hgap ⊢
      rw [hvs]
      exact .items hgap hfirst hrest hstop hgap'
    · obtain ⟨rfl, hnone⟩ := reads_pure hfound
      rw [List.nil_append, ← List.append_nil g'] at hgap
      obtain rfl := takes_gap_stop hgap hgap'
      rw [← hnone]
      simpa using Source.empty hgap
  · intro h
    cases h with
    | empty hgap =>
        have hfound : Reads (List.map unplaced) (sepBy item separator <|> pure []) [] [] [] :=
          Yields.orElse_right shortens_item.refuses_nil.bind (Yields.pure rfl)
        have hend : Takes gap [] [] := takes_gap_iff.2 rfl
        rw [← List.append_nil s]
        refine Yields.seq hgap (Yields.bind (w := []) hfound fun items hitems => ?_)
        exact Yields.seq (w := []) hend (Yields.pure hitems)
    | @items g w ws g' v vs hgap hfirst hrest hstop hend =>
        have hfound := reads_sepBy_item_iff.2 ⟨w, ws, v, vs, rfl, rfl, hfirst, hrest, hstop⟩
        rw [← List.append_assoc w]
        refine Yields.seq (by simpa using hgap) ?_
        rw [← List.append_nil g'] at hfound
        refine Yields.bind hfound.orElse_left fun items hitems => ?_
        rw [← List.append_nil g']
        exact Yields.seq hend (Yields.pure hitems)

end Grammar

open Grammar in
/-- A source is accepted where its text is made up of items, and its program is that of
the items. -/
theorem Program.parse_iff_source {s : String} {p : Program} :
    (∃ q, Program.parse s = .ok q ∧ q.unplaced = p) ↔
      ∃ vs, Source s.toList vs ∧ ProgramOf.ofElements Document.name vs = .ok p := by
  constructor
  · rintro ⟨q, hq, rfl⟩
    obtain ⟨es, hes, hprogram⟩ := Program.parse_eq_ok.1 hq
    have hreads := items?_iff_reads.1 ⟨es, hes, rfl⟩
    exact ⟨_, reads_program_iff.1 hreads, ofElements_unplaced hprogram⟩
  · rintro ⟨vs, hsource, hvs⟩
    obtain ⟨es, hes, rfl⟩ := items?_iff_reads.2 (reads_program_iff.2 hsource)
    obtain ⟨q, hq, -⟩ := items?_formsProgram hes
    have hsame := ofElements_unplaced hq
    rw [hvs] at hsame
    exact ⟨q, Program.parse_eq_ok.2 ⟨es, hes, hq⟩, (Except.ok.inj hsame).symm⟩

end TextShell
