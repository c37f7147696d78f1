import TextShell.Proofs.Program.Depth

/-!
# The trees of accepted sources

`Forms rule n` says that `n` is a tree that the rule can give: which nodes
stand in which slots, which names they carry, and that no conditional takes an
`else` that an inner one would have taken.  Every source that is accepted is
read as a program of such trees.

Two facts about a tree depend on what follows it in the source.  A statement
that is a bare name can only be told from a reserved word by the character
behind it, and a tree that ends in a conditional was left open because no
`else` follows.  So what is shown of a rule speaks of the cursor where it
stops: `StatementAt`, `ControlAt`.

## Main results

* `items?_formsProgram` — the items of an accepted source are a program, and
  its trees are of the right form.
-/

namespace TextShell

/-- The tree ends in a conditional that an `else` behind it would continue. -/
def Tree.endsOpen {ν : Type} : Tree ν → Bool
  | .ifThen .. => true
  | .forEach _ _ body _ _ => body.endsOpen
  | .ifElse _ _ falseBody _ => falseBody.endsOpen
  | .whileLoop _ body _ => body.endsOpen
  | .assign _ held _ => held.endsOpen
  | .returnWith held _ => held.endsOpen
  | .clearWith held _ => held.endsOpen
  | _ => false

namespace Grammar

open TextShell.Parser

/-- The trees that a rule can give. -/
inductive Forms : Rule → Node → Prop
  | template {t : Template} (ht : t.Canonical) : Forms .value (.template t)
  | block {rule : Rule} {executions : List Node} {loc : Option Loc}
      (hes : ∀ e ∈ executions, Forms .execution e) :
      Forms rule (.block executions loc)
  | forEach {rule : Rule} {target : String} {list body : Node}
      {loc : Option Loc} (htarget : IsName target.toList)
      (hlist : Forms .value list) (hbody : Forms .value body) :
      Forms rule (.forEach target list body .absent loc)
  | forSplit {rule : Rule} {target : String} {list body separator : Node}
      {loc : Option Loc} (htarget : IsName target.toList)
      (hlist : Forms .value list) (hbody : Forms .value body)
      (hseparator : Forms .value separator) :
      Forms rule (.forEach target list body separator loc)
  | ifThen {rule : Rule} {condition body : Node} {loc : Option Loc}
      (hcondition : Forms .value condition) (hbody : Forms .value body) :
      Forms rule (.ifThen condition body loc)
  | ifElse {rule : Rule} {condition trueBody falseBody : Node}
      {loc : Option Loc} (hcondition : Forms .value condition)
      (htrue : Forms .value trueBody) (hfalse : Forms .value falseBody)
      (hclosed : trueBody.endsOpen = false) :
      Forms rule (.ifElse condition trueBody falseBody loc)
  | whileLoop {rule : Rule} {condition body : Node} {loc : Option Loc}
      (hcondition : Forms .value condition) (hbody : Forms .value body) :
      Forms rule (.whileLoop condition body loc)
  | assign {target : String} {held : Node} {loc : Option Loc}
      (htarget : IsName target.toList) (hheld : Forms .value held) :
      Forms .execution (.assign target held loc)
  | returnNothing {loc : Option Loc} :
      Forms .execution (.returnWith .absent loc)
  | returnWith {held : Node} {loc : Option Loc} (hheld : Forms .value held) :
      Forms .execution (.returnWith held loc)
  | clearNothing {loc : Option Loc} :
      Forms .execution (.clearWith .absent loc)
  | clearWith {held : Node} {loc : Option Loc} (hheld : Forms .value held) :
      Forms .execution (.clearWith held loc)
  | call {name : String} {arguments : List Node} {loc : Option Loc}
      (hname : IsFunctionName name.toList)
      (harguments : ∀ a ∈ arguments, Forms .value a) :
      Forms .execution (.call name arguments loc)

/-- The definitions that the grammar can give. -/
structure FormsFunction (f : Function) : Prop where
  name : IsFunctionName f.name.toList
  params : ∀ p ∈ f.params, Param.IsNamed p
  body : ∃ executions loc, f.body = .block executions loc ∧
    ∀ e ∈ executions, Forms .execution e

/-- The programs that the grammar can give. -/
structure FormsProgram (p : Program) : Prop where
  functions : ∀ f ∈ p.functions, FormsFunction f
  executions : ∀ e ∈ p.executions, Forms .execution e

/-! ## The nodes of elements -/

/-- The element stands for the node. -/
abbrev Denotes (n : Node) (e : Element) : Prop :=
  e.toNode Document.name = .ok n

/-- The element stands for the node up to its place. -/
abbrev DenotesAt (n : Option Loc → Node) (e : Element) : Prop :=
  ∃ loc, Denotes (n loc) e

theorem exists_forall₂ {α β : Type} {R : α → β → Prop} {P : α → Prop}
    {bs : List β} (h : ∀ b ∈ bs, ∃ a, R a b ∧ P a) :
    ∃ as, List.Forall₂ R as bs ∧ ∀ a ∈ as, P a := by
  induction bs with
  | nil => exact ⟨[], .nil, by simp⟩
  | cons b bs ih =>
      obtain ⟨a, ha, hP⟩ := h b (by simp)
      obtain ⟨as, has, hPs⟩ := ih fun b' hb' => h b' (by simp [hb'])
      exact ⟨a :: as, .cons ha has, List.forall_mem_cons.2 ⟨hP, hPs⟩⟩

theorem toNodes_of_forall₂ {nodes : List Node} {es : List Element}
    (h : List.Forall₂ Denotes nodes es) :
    Element.toNodes Document.name es = .ok nodes := by
  induction h with
  | nil => rw [Element.toNodes]
  | cons hhead _ ih =>
      rw [Element.toNodes, hhead, ih]
      rfl

section Nodes

variable {w v : List Char} {children : List Element} {e target : Element}

theorem denotes_block {nodes : List Node}
    (hchildren : List.Forall₂ Denotes nodes children)
    (he : IsElement .block w children e) :
    DenotesAt (.block nodes) e := by
  obtain ⟨line, col, rfl⟩ := he
  simp only [DenotesAt, Denotes, Element.toNode, toNodes_of_forall₂ hchildren]
  exact ⟨_, rfl⟩

theorem denotes_forStmt {list body : Element} {l b : Node}
    (htarget : IsElement .variableName v [] target) (hlist : Denotes l list)
    (hbody : Denotes b body)
    (he : IsElement .forStmt w [target, list, body] e) :
    DenotesAt (.forEach (String.ofList v) l b .absent) e := by
  obtain ⟨line, col, rfl⟩ := he
  obtain ⟨line', col', rfl⟩ := htarget
  simp only [DenotesAt, Denotes, Element.toNode, hlist, hbody]
  exact ⟨_, rfl⟩

theorem denotes_forSplitStmt {list body separator : Element} {l b s : Node}
    (htarget : IsElement .variableName v [] target) (hlist : Denotes l list)
    (hbody : Denotes b body) (hseparator : Denotes s separator)
    (he : IsElement .forSplitStmt w [target, list, separator, body] e) :
    DenotesAt (.forEach (String.ofList v) l b s) e := by
  obtain ⟨line, col, rfl⟩ := he
  obtain ⟨line', col', rfl⟩ := htarget
  simp only [DenotesAt, Denotes, Element.toNode, hlist, hbody, hseparator]
  exact ⟨_, rfl⟩

theorem denotes_ifStmt {condition body : Element} {c b : Node}
    (hcondition : Denotes c condition) (hbody : Denotes b body)
    (he : IsElement .ifStmt w [condition, body] e) :
    DenotesAt (.ifThen c b) e := by
  obtain ⟨line, col, rfl⟩ := he
  simp only [DenotesAt, Denotes, Element.toNode, hcondition, hbody]
  exact ⟨_, rfl⟩

theorem denotes_ifElseStmt {condition trueBody falseBody : Element}
    {c t f : Node} (hcondition : Denotes c condition)
    (htrue : Denotes t trueBody) (hfalse : Denotes f falseBody)
    (he : IsElement .ifElseStmt w [condition, trueBody, falseBody] e) :
    DenotesAt (.ifElse c t f) e := by
  obtain ⟨line, col, rfl⟩ := he
  simp only [DenotesAt, Denotes, Element.toNode, hcondition, htrue, hfalse]
  exact ⟨_, rfl⟩

theorem denotes_whileStmt {condition body : Element} {c b : Node}
    (hcondition : Denotes c condition) (hbody : Denotes b body)
    (he : IsElement .whileStmt w [condition, body] e) :
    DenotesAt (.whileLoop c b) e := by
  obtain ⟨line, col, rfl⟩ := he
  simp only [DenotesAt, Denotes, Element.toNode, hcondition, hbody]
  exact ⟨_, rfl⟩

theorem denotes_setStmt {held : Element} {h : Node}
    (htarget : IsElement .variableName v [] target) (hheld : Denotes h held)
    (he : IsElement .setStmt w [target, held] e) :
    DenotesAt (.assign (String.ofList v) h) e := by
  obtain ⟨line, col, rfl⟩ := he
  obtain ⟨line', col', rfl⟩ := htarget
  simp only [DenotesAt, Denotes, Element.toNode, hheld]
  exact ⟨_, rfl⟩

theorem denotes_returnStmt_nil (he : IsElement .returnStmt w [] e) :
    DenotesAt (.returnWith .absent) e := by
  obtain ⟨line, col, rfl⟩ := he
  exact ⟨_, rfl⟩

theorem denotes_returnStmt {held : Element} {h : Node}
    (hheld : Denotes h held) (he : IsElement .returnStmt w [held] e) :
    DenotesAt (.returnWith h) e := by
  obtain ⟨line, col, rfl⟩ := he
  simp only [DenotesAt, Denotes, Element.toNode, hheld]
  exact ⟨_, rfl⟩

theorem denotes_clearStmt_nil (he : IsElement .clearStmt w [] e) :
    DenotesAt (.clearWith .absent) e := by
  obtain ⟨line, col, rfl⟩ := he
  exact ⟨_, rfl⟩

theorem denotes_clearStmt {held : Element} {h : Node}
    (hheld : Denotes h held) (he : IsElement .clearStmt w [held] e) :
    DenotesAt (.clearWith h) e := by
  obtain ⟨line, col, rfl⟩ := he
  simp only [DenotesAt, Denotes, Element.toNode, hheld]
  exact ⟨_, rfl⟩

theorem denotes_call {nodes : List Node} {name : Element}
    (hname : IsElement .functionName v [] name)
    (harguments : List.Forall₂ Denotes nodes children)
    (he : IsElement .call w (name :: children) e) :
    DenotesAt (.call (String.ofList v) nodes) e := by
  obtain ⟨line, col, rfl⟩ := he
  obtain ⟨line', col', rfl⟩ := hname
  simp only [DenotesAt, Denotes, Element.toNode, toNodes_of_forall₂ harguments]
  exact ⟨_, rfl⟩

/-- No node is read off the definition of a function. -/
theorem tag_ne_function {n : Node} (h : Denotes n e) : e.tag ≠ .function := by
  obtain ⟨tag, text, line, col, children, fault⟩ := e
  rintro rfl
  rw [Denotes, Element.toNode.eq_def] at h
  cases fault <;> cases h

/-- The element stands for the definition. -/
abbrev DenotesFunction (f : Function) (e : Element) : Prop :=
  e.tag = .function ∧ e.toFunction Document.name = .ok f

/-- The element names the parameter. -/
abbrev NamesParam (p : Param) (e : Element) : Prop :=
  IsElement .formalParam p.print.toList [] e

theorem foldlM_add_params {params : List Param} {es : List Element}
    (hes : List.Forall₂ NamesParam params es)
    (hnamed : ∀ p ∈ params, Param.IsNamed p)
    (parts : Element.FunctionParts String) :
    es.foldlM (Element.FunctionParts.add Document.name) parts =
      .ok { parts with params := parts.params ++ params } := by
  induction hes generalizing parts with
  | nil => simp [List.foldlM, pure, Except.pure]
  | @cons p e params es he _ ih =>
      obtain ⟨hp, hrest⟩ := List.forall_mem_cons.1 hnamed
      obtain ⟨line, col, rfl⟩ := he
      have hadd : Element.FunctionParts.add Document.name parts
          (.mk .formalParam (some (.text (String.ofList p.print.toList)))
            (.integer line) (.integer col) [] none) =
          .ok { parts with params := parts.params ++ [p] } := by
        simp [Element.FunctionParts.add, Element.tag, Element.param,
          Element.text, Element.text?, Param.ofText_print hp, bind,
          Except.bind, pure, Except.pure]
      rw [List.foldlM_cons, hadd]
      refine (ih hrest _).trans ?_
      simp

theorem denotes_function {params : List Param} {es : List Element}
    {name body : Element} {b : Node}
    (hname : IsElement .functionName v [] name)
    (hes : List.Forall₂ NamesParam params es)
    (hnamed : ∀ p ∈ params, Param.IsNamed p) (htag : body.tag = .block)
    (hbody : Denotes b body)
    (he : IsElement .function w (name :: es ++ [body]) e) :
    ∃ source loc,
      DenotesFunction ⟨String.ofList v, params, b, source, loc⟩ e := by
  obtain ⟨line, col, rfl⟩ := he
  obtain ⟨line', col', rfl⟩ := hname
  have hadd : ∀ parts : Element.FunctionParts String,
      Element.FunctionParts.add Document.name parts body =
        .ok { parts with body := some b } := by
    intro parts
    simp only [Element.FunctionParts.add, htag]
    rw [show body.toNode Document.name = .ok b from hbody]
    rfl
  have hparts : (Element.mk .functionName (some (.text (String.ofList v)))
      (.integer line') (.integer col') [] none :: es ++ [body]).foldlM
        (Element.FunctionParts.add Document.name) {} =
      .ok ⟨.text (String.ofList v), params, some b⟩ := by
    rw [List.cons_append, List.foldlM_cons]
    refine (List.foldlM_append ..).trans ?_
    rw [foldlM_add_params hes hnamed]
    refine (bind_pure _).trans (hadd _)
  simp only [DenotesFunction, Element.toFunction, Element.children, hparts]
  exact ⟨_, _, rfl, rfl⟩

end Nodes

/-! ## Where words end -/

theorem isWordOrUnderscore_semicolon {c : Char} (h : (c == ';') = true) :
    isWordOrUnderscore c = false := by
  obtain rfl : c = ';' := by simpa using h
  decide

theorem atWordEnd_of_char {c : Char} {at_ stop : Cursor} {u : Unit}
    (hc : isWordOrUnderscore c = false) (h : char c at_ = some (u, stop)) :
    atWordEnd at_.rest = true := by
  obtain ⟨n, hn, -⟩ := take_eq_some.1 h
  split at hn
  · next hhead =>
    rw [atWordEnd_iff]
    intro d hd
    rw [hhead] at hd
    obtain rfl := Option.mem_some.1 hd
    exact hc
  · simp at hn

theorem atWordEnd_of_space {at_ stop : Cursor} {u : Unit}
    (h : space at_ = some (u, stop)) : atWordEnd at_.rest = true := by
  obtain ⟨n, hn, -⟩ := take_eq_some.1 h
  rw [atWordEnd_iff]
  intro c hc
  dsimp only at hn
  split at hn
  · simp at hn
  · next hne =>
    cases hrest : at_.rest with
    | nil => simp [hrest] at hc
    | cons d rest =>
        obtain rfl : d = c := by simpa [hrest] using hc
        by_cases hblank : (d == ' ' || d == '\t') = true
        · simp only [Bool.or_eq_true, beq_iff_eq] at hblank
          rcases hblank with rfl | rfl <;> decide
        · simp [hrest, hblank] at hne

/-- Where a statement is separated from the next one, its last word ends. -/
theorem atWordEnd_of_separator {at_ stop : Cursor} {u : Unit}
    (h : separator at_ = some (u, stop)) : atWordEnd at_.rest = true := by
  obtain ⟨v, mid, htake, -⟩ := bind_eq_some.1 h
  obtain ⟨n, hn, -⟩ := take_eq_some.1 htake
  cases hrest : at_.rest with
  | nil => rfl
  | cons c rest =>
      rw [atWordEnd_iff, front_cons]
      rw [hrest] at hn
      by_cases hblank : (c == ' ' || c == '\t') = true
      · simp only [Bool.or_eq_true, beq_iff_eq] at hblank
        rcases hblank with rfl | rfl <;> decide
      · simp only [separatorLength?, List.takeWhile_cons, hblank,
          Bool.false_eq_true, if_false, List.length_nil, List.drop_zero] at hn
        split at hn
        · next heq => obtain ⟨rfl, -⟩ := List.cons.inj heq; decide
        · next heq => obtain ⟨rfl, -⟩ := List.cons.inj heq; decide
        · next heq => obtain ⟨rfl, -⟩ := List.cons.inj heq; decide
        · simp at hn

/-- Blanks that are taken, or a character behind them that goes on no word. -/
theorem atWordEnd_of_take_gapLength {extra : Char → Bool}
    (hextra : ∀ c, extra c = true → isWordOrUnderscore c = false)
    {at_ stop : Cursor} {u : Unit}
    (h : take (fun s => some (gapLength extra false s)) at_ = some (u, stop))
    (hstop : atWordEnd stop.rest = true) : atWordEnd at_.rest = true := by
  obtain ⟨n, hn, rfl⟩ := take_eq_some.1 h
  by_cases hzero : gapLength extra false at_.rest = 0
  · obtain rfl : n = 0 := by simpa [hzero] using hn.symm
    simpa using hstop
  · exact atWordEnd_of_gapLength hextra hzero

theorem atWordEnd_of_gap {at_ stop : Cursor} {u : Unit}
    (h : gap at_ = some (u, stop)) (hstop : atWordEnd stop.rest = true) :
    atWordEnd at_.rest = true :=
  atWordEnd_of_take_gapLength (fun _ => isWordOrUnderscore_semicolon) h hstop

theorem atWordEnd_of_blank {at_ stop : Cursor} {u : Unit}
    (h : blank at_ = some (u, stop)) (hstop : atWordEnd stop.rest = true) :
    atWordEnd at_.rest = true :=
  atWordEnd_of_take_gapLength (by simp) h hstop

/-! ## Repetitions -/

theorem forall_of_many {α : Type} {p : Parser α} {I : α → Prop} {k : Nat}
    (sp : Shortens 0 p)
    (hp : ∀ at_ a stop, at_.rest.length < k → p at_ = some (a, stop) → I a)
    {fuel : Nat} {at_ stop : Cursor} {as : List α}
    (hk : at_.rest.length < k) (h : many p fuel at_ = some (as, stop)) :
    ∀ a ∈ as, I a := by
  induction fuel generalizing at_ as with
  | zero =>
      obtain ⟨rfl, -⟩ := pure_eq_some.1 h
      simp
  | succ fuel ih =>
      rw [many_succ] at h
      simp only [orElse_eq_some, bind_eq_some, pure_eq_some] at h
      rcases h with ⟨a, mid, ha, as', mid', has, rfl, rfl⟩ | ⟨-, rfl, rfl⟩
      · have hshort := sp at_ a mid ha
        intro x hx
        rcases List.mem_cons.1 hx with rfl | hx
        · exact hp at_ _ mid hk ha
        · exact ih (by omega) has x hx
      · simp

theorem forall_of_sepBy {α : Type} {p : Parser α} {sep : Parser Unit}
    {I : α → Prop} {k : Nat} (sp : Shortens 0 p) (ssep : Shortens 0 sep)
    (hp : ∀ at_ a stop, at_.rest.length < k → p at_ = some (a, stop) → I a)
    {at_ stop : Cursor} {as : List α} (hk : at_.rest.length < k)
    (h : sepBy p sep at_ = some (as, stop)) : ∀ a ∈ as, I a := by
  simp only [sepBy, bind_eq_some, get_eq_some, pure_eq_some] at h
  obtain ⟨a, mid, ha, c, mid', ⟨rfl, rfl⟩, as', mid'', has, rfl, rfl⟩ := h
  have hshort := sp at_ a mid ha
  have hrest : ∀ x ∈ as', I x := by
    refine forall_of_many (ssep.bind_left fun _ => sp) ?_
      (show mid.rest.length < k by omega) has
    intro at' x stop' hk' hx
    obtain ⟨u, mid', hsep, hx⟩ := bind_eq_some.1 hx
    have := ssep at' u mid' hsep
    exact hp mid' x stop' (by omega) hx
  intro x hx
  rcases List.mem_cons.1 hx with rfl | hx
  · exact hp at_ _ mid hk ha
  · exact hrest x hx

/-- Statements between separators.  Each of them ends where a word ends, if
the last one does. -/
theorem forall_of_many_separator {p : Parser Element} {I : Element → Prop}
    {k : Nat} (sp : Shortens 0 p)
    (hp : ∀ at_ e stop, at_.rest.length < k → p at_ = some (e, stop) →
      atWordEnd stop.rest = true → I e)
    {fuel : Nat} {at_ stop : Cursor} {es : List Element}
    (hk : at_.rest.length < k)
    (h : many (separator >>= fun _ => p) fuel at_ = some (es, stop))
    (hstop : atWordEnd stop.rest = true) :
    atWordEnd at_.rest = true ∧ ∀ e ∈ es, I e := by
  induction fuel generalizing at_ es with
  | zero =>
      obtain ⟨rfl, rfl⟩ := pure_eq_some.1 h
      exact ⟨hstop, by simp⟩
  | succ fuel ih =>
      rw [many_succ] at h
      simp only [orElse_eq_some, bind_eq_some, pure_eq_some] at h
      rcases h with
        ⟨e, mid, ⟨u, mid', hsep, he⟩, es', mid'', hes, rfl, rfl⟩ |
          ⟨-, rfl, rfl⟩
      · have h₁ := shortens_separator at_ u mid' hsep
        have h₂ := sp mid' e mid he
        obtain ⟨hmid, hrest⟩ := ih (by omega) hes
        refine ⟨atWordEnd_of_separator hsep, fun x hx => ?_⟩
        rcases List.mem_cons.1 hx with rfl | hx
        · exact hp mid' _ mid (by omega) he hmid
        · exact hrest x hx
      · exact ⟨hstop, by simp⟩

theorem forall_of_sepBy_separator {p : Parser Element} {I : Element → Prop}
    {k : Nat} (sp : Shortens 0 p)
    (hp : ∀ at_ e stop, at_.rest.length < k → p at_ = some (e, stop) →
      atWordEnd stop.rest = true → I e)
    {at_ stop : Cursor} {es : List Element} (hk : at_.rest.length < k)
    (h : (sepBy p separator <|> pure []) at_ = some (es, stop))
    (hstop : atWordEnd stop.rest = true) : ∀ e ∈ es, I e := by
  rcases orElse_eq_some.1 h with h | ⟨-, h⟩
  · simp only [sepBy, bind_eq_some, get_eq_some, pure_eq_some] at h
    obtain ⟨e, mid, he, c, mid', ⟨rfl, rfl⟩, es', mid'', hes, rfl, rfl⟩ := h
    have hshort := sp at_ e mid he
    obtain ⟨hmid, hrest⟩ :=
      forall_of_many_separator sp hp (by omega) hes hstop
    intro x hx
    rcases List.mem_cons.1 hx with rfl | hx
    · exact hp at_ _ mid hk he hmid
    · exact hrest x hx
  · obtain ⟨rfl, -⟩ := pure_eq_some.1 h
    simp

/-! ## The rules -/

/-- No `else` with a value behind it follows. -/
def NoElse (stop : Cursor) : Prop :=
  elseBranch (Rule.value.parse (stop.rest.length + 1)) stop = none

theorem noElse_iff {fuel : Nat} {stop : Cursor}
    (h : stop.rest.length < fuel) :
    NoElse stop ↔ elseBranch (Rule.value.parse fuel) stop = none := by
  have hsame := same_elseBranch
    (parse_same (Nat.lt_succ_self stop.rest.length) h .value)
  rw [NoElse, hsame stop le_rfl]

/-- The element of a value slot, read up to `stop`. -/
def ValueAt (e : Element) (stop : Cursor) : Prop :=
  ∃ n, Denotes n e ∧ Forms .value n ∧ (n.endsOpen = true → NoElse stop)

/-- The element of what may be a value as well as a statement. -/
def ControlAt (e : Element) (stop : Cursor) : Prop :=
  ∃ n, Denotes n e ∧ (∀ rule, Forms rule n) ∧
    (n.endsOpen = true → NoElse stop)

/-- The element of a statement, read up to `stop`. -/
def StatementAt (e : Element) (stop : Cursor) : Prop :=
  atWordEnd stop.rest = true → ∃ n, Denotes n e ∧ Forms .execution n

theorem ControlAt.valueAt {e : Element} {stop : Cursor}
    (h : ControlAt e stop) : ValueAt e stop := by
  obtain ⟨n, hn, hforms, hopen⟩ := h
  exact ⟨n, hn, hforms .value, hopen⟩

theorem ControlAt.statementAt {e : Element} {stop : Cursor}
    (h : ControlAt e stop) : StatementAt e stop := by
  obtain ⟨n, hn, hforms, -⟩ := h
  exact fun _ => ⟨n, hn, hforms .execution⟩

/-- With this bound, values are read as trees of the right form. -/
def ReadsValues (fuel : Nat) : Prop :=
  ∀ at_ e stop, at_.rest.length < fuel →
    Rule.value.parse fuel at_ = some (e, stop) → ValueAt e stop

/-- With this bound, statements are read as trees of the right form. -/
def ReadsStatements (fuel : Nat) : Prop :=
  ∀ at_ e stop, at_.rest.length < fuel →
    Rule.execution.parse fuel at_ = some (e, stop) → StatementAt e stop

section Rules

variable {fuel : Nat} {at_ stop : Cursor} {e : Element}

theorem block_eq_some (hx : ReadsStatements fuel)
    (hk : at_.rest.length < fuel + 1)
    (h : block (Rule.execution.parse fuel) at_ = some (e, stop)) :
    e.tag = .block ∧ ∃ nodes, DenotesAt (.block nodes) e ∧
      ∀ n ∈ nodes, Forms .execution n := by
  obtain ⟨children, hp, rfl⟩ := tagged_eq_some.1 h
  simp only [bind_eq_some, pure_eq_some] at hp
  obtain ⟨_, c₁, h₁, _, c₂, h₂, es, c₃, h₃, _, c₄, h₄, _, c₅, h₅, rfl, rfl⟩ :=
    hp
  have l₁ := shortens_char '{' _ _ _ h₁
  have l₂ := shortens_gap _ _ _ h₂
  have hend : atWordEnd c₃.rest = true :=
    atWordEnd_of_gap h₄ (atWordEnd_of_char (by decide) h₅)
  have hes : ∀ e ∈ es, ∃ n, Denotes n e ∧ Forms .execution n :=
    forall_of_sepBy_separator (shortens_parse fuel .execution).weaken hx
      (by omega) h₃ hend
  obtain ⟨nodes, hnodes, hforms⟩ := exists_forall₂ hes
  exact ⟨rfl, nodes, denotes_block hnodes ⟨at_.line, at_.col, rfl⟩, hforms⟩

theorem block_controlAt (hx : ReadsStatements fuel)
    (hk : at_.rest.length < fuel + 1)
    (h : block (Rule.execution.parse fuel) at_ = some (e, stop)) :
    ControlAt e stop := by
  obtain ⟨-, nodes, ⟨loc, hn⟩, hnodes⟩ := block_eq_some hx hk h
  exact ⟨_, hn, fun _ => .block hnodes, by simp [Tree.endsOpen]⟩

theorem forStatement_controlAt (hv : ReadsValues fuel)
    (hk : at_.rest.length < fuel + 1)
    (h : forStatement (Rule.value.parse fuel) at_ = some (e, stop)) :
    ControlAt e stop := by
  have sv := (shortens_parse fuel .value).weaken
  obtain ⟨tag, children, hp, rfl⟩ := element_eq_some.1 h
  simp only [bind_eq_some, orElse_eq_some, pure_eq_some, Prod.mk.injEq] at hp
  obtain ⟨_, c₁, h₁, _, c₂, h₂, target, c₃, h₃, _, c₄, h₄, _, c₅, h₅, _, c₆,
    h₆, list, c₇, h₇, hp⟩ := hp
  obtain ⟨w, hw, htarget⟩ := variableName_eq_some h₃
  have hname : IsName (String.ofList w).toList := by simpa using hw
  have l₁ := shortens_keyword (by simp) _ _ _ h₁
  have l₂ := shortens_space _ _ _ h₂
  have l₃ := shortens_variableName _ _ _ h₃
  have l₄ := shortens_space _ _ _ h₄
  have l₅ := shortens_keyword (by simp) _ _ _ h₅
  have l₆ := shortens_space _ _ _ h₆
  have l₇ := sv _ _ _ h₇
  obtain ⟨l, hl, hlforms, -⟩ := hv c₆ list c₇ (by omega) h₇
  rcases hp with
    ⟨_, d₁, g₁, _, d₂, g₂, _, d₃, g₃, separator, d₄, g₄, _, d₅, g₅, body, d₆,
      g₆, ⟨rfl, rfl⟩, rfl⟩ |
    ⟨-, _, d₁, g₁, body, d₂, g₂, ⟨rfl, rfl⟩, rfl⟩
  · have m₁ := shortens_space _ _ _ g₁
    have m₂ := shortens_keyword (by simp) _ _ _ g₂
    have m₃ := shortens_space _ _ _ g₃
    have m₄ := sv _ _ _ g₄
    have m₅ := shortens_blank _ _ _ g₅
    obtain ⟨s, hs, hsforms, -⟩ := hv d₃ separator d₄ (by omega) g₄
    obtain ⟨b, hb, hbforms, hopen⟩ := hv d₅ body d₆ (by omega) g₆
    obtain ⟨loc, hn⟩ := denotes_forSplitStmt htarget hl hb hs
      ⟨at_.line, at_.col, rfl⟩
    exact ⟨_, hn, fun _ => .forSplit hname hlforms hbforms hsforms, hopen⟩
  · have m₁ := shortens_blank _ _ _ g₁
    obtain ⟨b, hb, hbforms, hopen⟩ := hv d₁ body d₂ (by omega) g₂
    obtain ⟨loc, hn⟩ := denotes_forStmt htarget hl hb ⟨at_.line, at_.col, rfl⟩
    exact ⟨_, hn, fun _ => .forEach hname hlforms hbforms, hopen⟩

/-- A conditional that goes on with `else` has a body that does not end in an
open one: the inner conditional was read up to the same place, and would have
taken the `else`. -/
theorem ifStatement_controlAt (hv : ReadsValues fuel)
    (hk : at_.rest.length < fuel + 1)
    (h : ifStatement (Rule.value.parse fuel) at_ = some (e, stop)) :
    ControlAt e stop := by
  have sv := (shortens_parse fuel .value).weaken
  rw [ifStatement_eq] at h
  obtain ⟨tag, children, hp, rfl⟩ := element_eq_some.1 h
  simp only [bind_eq_some, orElse_eq_some, pure_eq_some, Prod.mk.injEq] at hp
  obtain ⟨_, c₁, h₁, _, c₂, h₂, condition, c₃, h₃, _, c₄, h₄, body, c₅, h₅,
    hp⟩ := hp
  have l₁ := shortens_keyword (by simp) _ _ _ h₁
  have l₂ := shortens_space _ _ _ h₂
  have l₃ := sv _ _ _ h₃
  have l₄ := shortens_blank _ _ _ h₄
  have l₅ := sv _ _ _ h₅
  have hlen : c₅.rest.length < fuel := by omega
  obtain ⟨c, hc, hcforms, -⟩ := hv c₂ condition c₃ (by omega) h₃
  obtain ⟨b, hb, hbforms, hopen⟩ := hv c₄ body c₅ (by omega) h₅
  rcases hp with
    ⟨falseBody, d₁, g₁, ⟨rfl, rfl⟩, rfl⟩ | ⟨hnone, ⟨rfl, rfl⟩, rfl⟩
  · have hclosed : b.endsOpen = false := by
      refine Bool.eq_false_iff.2 fun hb => ?_
      have hnone := (noElse_iff hlen).1 (hopen hb)
      rw [hnone] at g₁
      simp at g₁
    simp only [elseBranch, bind_eq_some] at g₁
    obtain ⟨_, d₂, g₂, _, d₃, g₃, _, d₄, g₄, g₁⟩ := g₁
    have m₂ := shortens_blank _ _ _ g₂
    have m₃ := shortens_keyword (by simp) _ _ _ g₃
    have m₄ := shortens_blank _ _ _ g₄
    obtain ⟨f, hf, hfforms, hfopen⟩ := hv d₄ falseBody d₁ (by omega) g₁
    obtain ⟨loc, hn⟩ := denotes_ifElseStmt hc hb hf ⟨at_.line, at_.col, rfl⟩
    exact ⟨_, hn, fun _ => .ifElse hcforms hbforms hfforms hclosed, hfopen⟩
  · obtain ⟨loc, hn⟩ := denotes_ifStmt hc hb ⟨at_.line, at_.col, rfl⟩
    refine ⟨_, hn, fun _ => .ifThen hcforms hbforms, fun _ => ?_⟩
    rw [noElse_iff hlen]
    rw [bind_apply, Option.bind_eq_none_iff] at hnone
    cases helse : elseBranch (Rule.value.parse fuel) c₅ with
    | none => rfl
    | some answer => exact absurd (hnone answer helse) (by simp [pure_apply])

theorem whileStatement_controlAt (hv : ReadsValues fuel)
    (hk : at_.rest.length < fuel + 1)
    (h : whileStatement (Rule.value.parse fuel) at_ = some (e, stop)) :
    ControlAt e stop := by
  have sv := (shortens_parse fuel .value).weaken
  obtain ⟨children, hp, rfl⟩ := tagged_eq_some.1 h
  simp only [bind_eq_some, pure_eq_some] at hp
  obtain ⟨_, c₁, h₁, _, c₂, h₂, condition, c₃, h₃, _, c₄, h₄, body, c₅, h₅,
    rfl, rfl⟩ := hp
  have l₁ := shortens_keyword (by simp) _ _ _ h₁
  have l₂ := shortens_space _ _ _ h₂
  have l₃ := sv _ _ _ h₃
  have l₄ := shortens_blank _ _ _ h₄
  obtain ⟨c, hc, hcforms, -⟩ := hv c₂ condition c₃ (by omega) h₃
  obtain ⟨b, hb, hbforms, hopen⟩ := hv c₄ body c₅ (by omega) h₅
  obtain ⟨loc, hn⟩ := denotes_whileStmt hc hb ⟨at_.line, at_.col, rfl⟩
  exact ⟨_, hn, fun _ => .whileLoop hcforms hbforms, hopen⟩

theorem controlStatement_controlAt (hv : ReadsValues fuel)
    (hk : at_.rest.length < fuel + 1)
    (h : controlStatement (Rule.value.parse fuel) at_ = some (e, stop)) :
    ControlAt e stop := by
  simp only [controlStatement, orElse_eq_some] at h
  rcases h with h | ⟨-, h | ⟨-, h⟩⟩
  · exact forStatement_controlAt hv hk h
  · exact ifStatement_controlAt hv hk h
  · exact whileStatement_controlAt hv hk h

theorem setStatement_statementAt (hv : ReadsValues fuel)
    (hk : at_.rest.length < fuel + 1)
    (h : setStatement (Rule.value.parse fuel) at_ = some (e, stop)) :
    StatementAt e stop := by
  obtain ⟨children, hp, rfl⟩ := tagged_eq_some.1 h
  simp only [bind_eq_some, pure_eq_some] at hp
  obtain ⟨target, c₁, h₁, _, c₂, h₂, _, c₃, h₃, _, c₄, h₄, held, c₅, h₅, rfl,
    rfl⟩ := hp
  obtain ⟨w, hw, htarget⟩ := variableName_eq_some h₁
  have l₁ := shortens_variableName _ _ _ h₁
  have l₂ := shortens_space? _ _ _ h₂
  have l₃ := shortens_char '=' _ _ _ h₃
  have l₄ := shortens_space? _ _ _ h₄
  obtain ⟨n, hn, hforms, -⟩ := hv c₄ held c₅ (by omega) h₅
  obtain ⟨loc, hset⟩ := denotes_setStmt htarget hn ⟨at_.line, at_.col, rfl⟩
  exact fun _ => ⟨_, hset, .assign (by simpa using hw) hforms⟩

/-- The children of `return` and `clear`: none, or one value. -/
theorem optionalValue_eq_some (hv : ReadsValues fuel)
    (hk : at_.rest.length < fuel + 1) {tag : Tag} {word : String}
    (hword : word.toList ≠ [])
    (h : optionalValue (Rule.value.parse fuel) tag word at_ =
      some (e, stop)) :
    ∃ w, IsElement tag w [] e ∨
      ∃ held n, IsElement tag w [held] e ∧ Denotes n held ∧
        Forms .value n := by
  obtain ⟨children, hp, rfl⟩ := tagged_eq_some.1 h
  simp only [bind_eq_some, orElse_eq_some, pure_eq_some] at hp
  obtain ⟨_, c₁, h₁, hp⟩ := hp
  refine ⟨at_.rest.take (stop.offset - at_.offset), ?_⟩
  rcases hp with ⟨_, c₂, h₂, held, c₃, h₃, rfl, rfl⟩ | ⟨-, rfl, rfl⟩
  · have l₁ := shortens_keyword hword _ _ _ h₁
    have l₂ := shortens_space _ _ _ h₂
    obtain ⟨n, hn, hforms, -⟩ := hv c₂ held c₃ (by omega) h₃
    exact .inr ⟨held, n, ⟨at_.line, at_.col, rfl⟩, hn, hforms⟩
  · exact .inl ⟨at_.line, at_.col, rfl⟩

theorem returnStatement_statementAt (hv : ReadsValues fuel)
    (hk : at_.rest.length < fuel + 1)
    (h : optionalValue (Rule.value.parse fuel) .returnStmt "return" at_ =
      some (e, stop)) : StatementAt e stop := by
  intro _
  obtain ⟨w, he | ⟨held, n, he, hn, hforms⟩⟩ :=
    optionalValue_eq_some hv hk (by simp) h
  · obtain ⟨loc, hreturn⟩ := denotes_returnStmt_nil he
    exact ⟨_, hreturn, .returnNothing⟩
  · obtain ⟨loc, hreturn⟩ := denotes_returnStmt hn he
    exact ⟨_, hreturn, .returnWith hforms⟩

theorem clearStatement_statementAt (hv : ReadsValues fuel)
    (hk : at_.rest.length < fuel + 1)
    (h : optionalValue (Rule.value.parse fuel) .clearStmt "clear" at_ =
      some (e, stop)) : StatementAt e stop := by
  intro _
  obtain ⟨w, he | ⟨held, n, he, hn, hforms⟩⟩ :=
    optionalValue_eq_some hv hk (by simp) h
  · obtain ⟨loc, hclear⟩ := denotes_clearStmt_nil he
    exact ⟨_, hclear, .clearNothing⟩
  · obtain ⟨loc, hclear⟩ := denotes_clearStmt hn he
    exact ⟨_, hclear, .clearWith hforms⟩

/-- A call whose name is one and whose arguments are values is well formed. -/
theorem call_statement {w v : List Char} {name : Element}
    {arguments : List Element} (hw : IsFunctionName w)
    (hname : IsElement .functionName w [] name)
    (harguments : ∀ e ∈ arguments, ∃ n, Denotes n e ∧ Forms .value n)
    (he : IsElement .call v (name :: arguments) e) :
    ∃ n, Denotes n e ∧ Forms .execution n := by
  obtain ⟨nodes, hnodes, hforms⟩ := exists_forall₂ harguments
  obtain ⟨loc, hcall⟩ := denotes_call hname hnodes he
  exact ⟨_, hcall, .call (by simpa using hw) hforms⟩

theorem ReadsValues.forms (hv : ReadsValues fuel) :
    ∀ at_ e stop, at_.rest.length < fuel →
      Rule.value.parse fuel at_ = some (e, stop) →
      ∃ n, Denotes n e ∧ Forms .value n := by
  intro at_ e stop hk h
  obtain ⟨n, hn, hforms, -⟩ := hv at_ e stop hk h
  exact ⟨n, hn, hforms⟩

theorem parenCall_statementAt (hv : ReadsValues fuel)
    (hk : at_.rest.length < fuel + 1)
    (h : parenCall (Rule.value.parse fuel) at_ = some (e, stop)) :
    StatementAt e stop := by
  intro _
  obtain ⟨children, hp, rfl⟩ := tagged_eq_some.1 h
  simp only [bind_eq_some, pure_eq_some] at hp
  obtain ⟨name, c₁, h₁, _, c₂, h₂, _, c₃, h₃, arguments, c₄, h₄, _, c₅, h₅, _,
    c₆, h₆, rfl, rfl⟩ := hp
  obtain ⟨w, hw, hname⟩ := functionName_eq_some h₁
  have l₁ := shortens_functionName _ _ _ h₁
  have l₂ := shortens_char '(' _ _ _ h₂
  have l₃ := shortens_blank _ _ _ h₃
  refine call_statement (hw (atWordEnd_of_char (by decide) h₂)) hname ?_
    ⟨at_.line, at_.col, rfl⟩
  rcases orElse_eq_some.1 h₄ with h₄ | ⟨-, h₄⟩
  · exact forall_of_sepBy (shortens_parse fuel .value).weaken shortens_comma
      hv.forms (by omega) h₄
  · obtain ⟨rfl, -⟩ := pure_eq_some.1 h₄
    simp

/-- The name of a call is followed by a blank and an argument, or by what
follows the call. -/
theorem shellCall_statementAt (hv : ReadsValues fuel)
    (hk : at_.rest.length < fuel + 1)
    (h : shellCall (Rule.value.parse fuel) at_ = some (e, stop)) :
    StatementAt e stop := by
  have sv := (shortens_parse fuel .value).weaken
  intro hstop
  obtain ⟨children, hp, rfl⟩ := tagged_eq_some.1 h
  simp only [bind_eq_some, get_eq_some, pure_eq_some] at hp
  obtain ⟨name, c₁, h₁, _, _, ⟨rfl, rfl⟩, arguments, c₃, h₃, rfl, rfl⟩ := hp
  obtain ⟨w, hw, hname⟩ := functionName_eq_some h₁
  have l₁ := shortens_functionName _ _ _ h₁
  have hword : atWordEnd c₁.rest = true := by
    cases hlen : c₁.rest.length with
    | zero =>
        rw [List.length_eq_zero_iff.1 hlen]
        rfl
    | succ m =>
        rw [hlen, many_succ] at h₃
        simp only [orElse_eq_some, bind_eq_some, pure_eq_some] at h₃
        rcases h₃ with ⟨_, _, ⟨_, _, hspace, _⟩, _⟩ | ⟨-, -, rfl⟩
        · exact atWordEnd_of_space hspace
        · exact hstop
  refine call_statement (hw hword) hname ?_ ⟨at_.line, at_.col, rfl⟩
  refine forall_of_many (shortens_space.bind_left fun _ => sv) ?_
    (show c₁.rest.length < fuel by omega) h₃
  intro at' x stop' hk' hx
  obtain ⟨u, mid, hspace, hx⟩ := bind_eq_some.1 hx
  have := shortens_space _ _ _ hspace
  exact hv.forms mid x stop' (by omega) hx

theorem openStatement_statementAt (hv : ReadsValues fuel)
    (hk : at_.rest.length < fuel + 1)
    (h : openStatement (Rule.value.parse fuel) at_ = some (e, stop)) :
    StatementAt e stop := by
  simp only [openStatement, orElse_eq_some] at h
  rcases h with h | ⟨-, h | ⟨-, h | ⟨-, h | ⟨-, h⟩⟩⟩⟩
  · exact setStatement_statementAt hv hk h
  · exact returnStatement_statementAt hv hk h
  · exact clearStatement_statementAt hv hk h
  · exact parenCall_statementAt hv hk h
  · exact shellCall_statementAt hv hk h

theorem string_valueAt {tag : Tag} {p : Parser Unit}
    (htag : tag = .dquoteString ∨ tag = .squoteString ∨ tag = .bareString)
    (h : leaf tag p at_ = some (e, stop)) : ValueAt e stop := by
  obtain ⟨t, ht, hn⟩ := string_toNode htag h
  exact ⟨_, hn, .template ht, by simp [Tree.endsOpen]⟩

end Rules

/-- Whatever a rule accepts, with a bound that is not met, is of its form. -/
theorem parse_forms (fuel : Nat) :
    ReadsValues fuel ∧ ReadsStatements fuel := by
  induction fuel with
  | zero =>
      constructor <;>
      · intro at_ e stop hk
        omega
  | succ fuel ih =>
      obtain ⟨hv, hx⟩ := ih
      constructor
      · intro at_ e stop hk h
        simp only [Rule.parse, valueRule, orElse_eq_some] at h
        rcases h with h | ⟨-, h | ⟨-, h | ⟨-, h | ⟨-, h⟩⟩⟩⟩
        · exact (block_controlAt hx hk h).valueAt
        · exact (controlStatement_controlAt hv hk h).valueAt
        · exact string_valueAt (.inl rfl) h
        · exact string_valueAt (.inr (.inl rfl)) h
        · exact string_valueAt (.inr (.inr rfl)) h
      · intro at_ e stop hk h
        simp only [Rule.parse, executionRule, orElse_eq_some] at h
        rcases h with h | ⟨-, h | ⟨-, h⟩⟩
        · exact (block_controlAt hx hk h).statementAt
        · exact (controlStatement_controlAt hv hk h).statementAt
        · exact openStatement_statementAt hv hk h

/-! ## Definitions and programs -/

theorem functionRule_eq_some {fuel : Nat} {at_ stop : Cursor} {e : Element}
    (hk : at_.rest.length < fuel + 1)
    (h : functionRule (Rule.execution.parse fuel) at_ = some (e, stop)) :
    ∃ f, DenotesFunction f e ∧ FormsFunction f := by
  obtain ⟨children, hp, rfl⟩ := tagged_eq_some.1 h
  simp only [bind_eq_some, pure_eq_some] at hp
  obtain ⟨_, c₁, h₁, _, c₂, h₂, name, c₃, h₃, _, c₄, h₄, _, c₅, h₅, _, c₆, h₆,
    es, c₇, h₇, _, c₈, h₈, _, c₉, h₉, _, d₁, k₁, body, d₂, k₂, rfl, rfl⟩ := hp
  obtain ⟨w, hw, hname⟩ := functionName_eq_some h₃
  have hend : atWordEnd c₃.rest = true :=
    atWordEnd_of_blank h₄ (atWordEnd_of_char (by decide) h₅)
  have hes : ∀ e ∈ es, ∃ p, NamesParam p e ∧ Param.IsNamed p := by
    rcases orElse_eq_some.1 h₇ with h₇ | ⟨-, h₇⟩
    · refine forall_of_sepBy shortens_formalParam shortens_comma ?_
        (Nat.lt_succ_self _) h₇
      intro at' x stop' _ hx
      obtain ⟨p, hp, hx⟩ := formalParam_eq_some hx
      exact ⟨p, hx, hp⟩
    · obtain ⟨rfl, -⟩ := pure_eq_some.1 h₇
      simp
  obtain ⟨params, hparams, hnamed⟩ := exists_forall₂ hes
  have hbody : d₁.rest.length < fuel + 1 := by
    have l₁ := shortens_keyword (by simp) _ _ _ h₁
    have l₂ := shortens_space _ _ _ h₂
    have l₃ := shortens_functionName _ _ _ h₃
    have l₄ := shortens_blank _ _ _ h₄
    have l₅ := shortens_char '(' _ _ _ h₅
    have l₆ := shortens_blank _ _ _ h₆
    have l₇ := ((Shortens.sepBy shortens_formalParam shortens_comma).orElse
      (Shortens.pure _)) _ _ _ h₇
    have l₈ := shortens_blank _ _ _ h₈
    have l₉ := shortens_char ')' _ _ _ h₉
    have m₁ := shortens_blank _ _ _ k₁
    omega
  obtain ⟨htag, nodes, ⟨loc, hblock⟩, hforms⟩ :=
    block_eq_some (parse_forms fuel).2 hbody k₂
  obtain ⟨source, loc', hf⟩ := denotes_function hname hparams hnamed htag
    hblock ⟨at_.line, at_.col, rfl⟩
  exact ⟨_, hf, ⟨by simpa using hw hend, hnamed, nodes, loc, rfl, hforms⟩⟩

/-- The element of an item: a definition or a statement. -/
def ItemForms (e : Element) : Prop :=
  (∃ f, DenotesFunction f e ∧ FormsFunction f) ∨
    ∃ n, Denotes n e ∧ Forms .execution n

theorem ofElements_function {f : Function} {e : Element} {es : List Element}
    {p : Program} (he : DenotesFunction f e)
    (hes : ProgramOf.ofElements Document.name es = .ok p) :
    ProgramOf.ofElements Document.name (e :: es) =
      .ok { p with functions := f :: p.functions } := by
  simp only [ProgramOf.ofElements, he.1, he.2, hes]
  rfl

theorem ofElements_execution {n : Node} {e : Element} {es : List Element}
    {p : Program} (he : Denotes n e)
    (hes : ProgramOf.ofElements Document.name es = .ok p) :
    ProgramOf.ofElements Document.name (e :: es) =
      .ok { p with executions := n :: p.executions } := by
  have htag := tag_ne_function he
  rw [ProgramOf.ofElements]
  split
  · contradiction
  · rw [show e.toNode Document.name = .ok n from he, hes]
    rfl

/-- Items of the right form make a program of the right form. -/
theorem ofElements_forms {es : List Element} (h : ∀ e ∈ es, ItemForms e) :
    ∃ p, ProgramOf.ofElements Document.name es = .ok p ∧ FormsProgram p := by
  induction es with
  | nil => exact ⟨{}, rfl, by simp, by simp⟩
  | cons e es ih =>
      obtain ⟨he, hes⟩ := List.forall_mem_cons.1 h
      obtain ⟨p, hp, hforms⟩ := ih hes
      rcases he with ⟨f, hf, hfunction⟩ | ⟨n, hn, hexecution⟩
      · exact ⟨_, ofElements_function hf hp,
          List.forall_mem_cons.2 ⟨hfunction, hforms.functions⟩,
          hforms.executions⟩
      · exact ⟨_, ofElements_execution hn hp, hforms.functions,
          List.forall_mem_cons.2 ⟨hexecution, hforms.executions⟩⟩

/-- The items of a source are what its rule gives, if nothing is left. -/
theorem items?_eq_some {source : String} {items : List Element} :
    items? source = some items ↔
      ∃ stop, programRule (Rule.value.parse (source.toList.length + 1))
        (Rule.execution.parse (source.toList.length + 1))
        { rest := source.toList } = some (items, stop) ∧ stop.rest = [] := by
  delta items?
  dsimp only
  generalize programRule _ _ _ = result
  cases result with
  | none => simp
  | some pair => cases hrest : pair.2.rest <;> simp [hrest, Prod.ext_iff]

/-- An accepted source is read as a program of the right form. -/
theorem items?_formsProgram {source : String} {items : List Element}
    (h : items? source = some items) :
    ∃ p, ProgramOf.ofElements Document.name items = .ok p ∧
      FormsProgram p := by
  obtain ⟨stop, hrule, hempty⟩ := items?_eq_some.1 h
  simp only [programRule, bind_eq_some, pure_eq_some] at hrule
  obtain ⟨_, c₁, h₁, es, c₂, h₂, _, c₃, h₃, rfl, rfl⟩ := hrule
  have hend : atWordEnd c₂.rest = true := by
    refine atWordEnd_of_gap h₃ ?_
    rw [hempty]
    rfl
  -- the bound exceeds the length of the source, so it is never met
  have l₁ : c₁.rest.length < source.toList.length + 1 :=
    Nat.lt_succ_of_le (shortens_gap _ _ _ h₁)
  generalize source.toList.length + 1 = fuel at h₂ l₁
  have sx := (shortens_parse fuel .execution).weaken
  have sitem := (shortens_functionRule sx).orElse
    (shortens_parse (fuel + 1) .execution)
  refine ofElements_forms (forall_of_sepBy_separator sitem.weaken ?_ l₁ h₂
    hend)
  intro at_ e stop hk he hstop
  rcases orElse_eq_some.1 he with he | ⟨-, he⟩
  · exact .inl (functionRule_eq_some (by omega) he)
  · exact .inr ((parse_forms (fuel + 1)).2 at_ e stop (by omega) he hstop)

end Grammar

end TextShell
