import TextShell.Proofs.Program.Printed

/-!
# Printing undoes parsing

A program that was read is printed as a source that is read as the same
program, up to the places its nodes carry.  `bare` takes those away.

Trees of accepted sources are of the form that `Forms` describes, so it is
enough to show that the rules read the text of such a tree back.  This is an
induction on the form.  What may follow the text matters twice: a conditional
without `else` must not be followed by one (`StopsElse`), and a `return` or
`clear` without a value ends where its line ends.

## Main results

* `parse_completes` — the text of a tree is read back as that tree.
* `parse_print` — the program that a source gives is printed as a source that
  gives the same program.
-/

namespace TextShell

/-! ## Programs without places -/

namespace Tree

variable {ν : Type}

mutual

/-- The tree without the places it was read from. -/
def bare : Tree ν → Tree ν
  | .absent => .absent
  | .template t => .template t
  | .block executions _ => .block (bareList executions) none
  | .forEach target list body separator _ =>
    .forEach target list.bare body.bare separator.bare none
  | .ifThen condition body _ => .ifThen condition.bare body.bare none
  | .ifElse condition trueBody falseBody _ =>
    .ifElse condition.bare trueBody.bare falseBody.bare none
  | .whileLoop condition body _ => .whileLoop condition.bare body.bare none
  | .assign target held _ => .assign target held.bare none
  | .returnWith held _ => .returnWith held.bare none
  | .clearWith held _ => .clearWith held.bare none
  | .call name arguments _ => .call name (bareList arguments) none
  | .function name params body _ _ => .function name params body.bare none none
  | .program functions executions _ =>
    .program (bareList functions) (bareList executions) none
  | .value v => .value v
  | .param p => .param p
  | .bareControl _ => .bareControl none
  | .bareOpen _ => .bareOpen none

/-- Each tree of a list without its places. -/
def bareList : List (Tree ν) → List (Tree ν)
  | [] => []
  | n :: nodes => n.bare :: bareList nodes

end

section Bare

variable (loc : Option Loc)

@[simp] theorem bare_block (executions : List (Tree ν)) :
    (block executions loc).bare = .block (bareList executions) none := rfl

@[simp] theorem bare_forEach (target : ν) (list body separator : Tree ν) :
    (forEach target list body separator loc).bare =
      .forEach target list.bare body.bare separator.bare none := rfl

@[simp] theorem bare_ifThen (condition body : Tree ν) :
    (ifThen condition body loc).bare =
      .ifThen condition.bare body.bare none := rfl

@[simp] theorem bare_ifElse (condition trueBody falseBody : Tree ν) :
    (ifElse condition trueBody falseBody loc).bare =
      .ifElse condition.bare trueBody.bare falseBody.bare none := rfl

@[simp] theorem bare_whileLoop (condition body : Tree ν) :
    (whileLoop condition body loc).bare =
      .whileLoop condition.bare body.bare none := rfl

@[simp] theorem bare_assign (target : ν) (held : Tree ν) :
    (assign target held loc).bare = .assign target held.bare none := rfl

@[simp] theorem bare_returnWith (held : Tree ν) :
    (returnWith held loc).bare = .returnWith held.bare none := rfl

@[simp] theorem bare_clearWith (held : Tree ν) :
    (clearWith held loc).bare = .clearWith held.bare none := rfl

@[simp] theorem bare_call (name : ν) (arguments : List (Tree ν)) :
    (call name arguments loc).bare =
      .call name (bareList arguments) none := rfl

end Bare

end Tree

/-- The definition without its text and the places in it. -/
def FunctionOf.bare {ν : Type} (f : FunctionOf ν) : FunctionOf ν :=
  ⟨f.name, f.params, f.body.bare, none, none⟩

/-- The program without texts and places. -/
def ProgramOf.bare {ν : Type} (p : ProgramOf ν) : ProgramOf ν :=
  ⟨p.functions.map FunctionOf.bare, p.executions.map Tree.bare⟩

namespace Grammar

open TextShell.Parser

/-- The element stands for the node, up to places. -/
def Rereads (n : Node) (e : Element) : Prop :=
  ∃ n', Denotes n' e ∧ n'.bare = n.bare

theorem exists_bareList {nodes : List Node} {es : List Element}
    (h : List.Forall₂ Rereads nodes es) :
    ∃ nodes', List.Forall₂ Denotes nodes' es ∧
      Tree.bareList nodes' = Tree.bareList nodes := by
  induction h with
  | nil => exact ⟨[], .nil, rfl⟩
  | cons he _ ih =>
      obtain ⟨n', hn', hbare⟩ := he
      obtain ⟨nodes', hnodes', hbares⟩ := ih
      refine ⟨n' :: nodes', .cons hn' hnodes', ?_⟩
      rw [Tree.bareList, hbare, hbares, Tree.bareList]

/-! ## What may follow a tree -/

/-- What may follow the text of a tree where the rule is used. -/
structure Follows (rule : Rule) (n : Node) (r : List Char) : Prop where
  stopsElse : n.endsOpen = true → StopsElse r
  atLineEnd : rule = .execution → Front (fun c => c = '\n') r

theorem Follows.value {n : Node} {r : List Char} (h : StopsElse r) :
    Follows .value n r :=
  ⟨fun _ => h, by simp⟩

theorem Follows.value_of_closed {n : Node} {r : List Char}
    (h : n.endsOpen = false) : Follows .value n r :=
  ⟨by simp [h], by simp⟩

/-- A tree's last part is followed by what follows the tree. -/
theorem Follows.last {rule : Rule} {n last : Node} {r : List Char}
    (h : Follows rule n r) (hopen : last.endsOpen = n.endsOpen) :
    Follows .value last r :=
  ⟨fun hlast => h.stopsElse (hopen ▸ hlast), by simp⟩

/-- With this bound, the rule reads the text of the tree back. -/
def Completes (width : Nat) (level : Int) (fuel : Nat) (rule : Rule)
    (n : Node) : Prop :=
  ∀ r, Follows rule n r →
    Yields (rule.parse fuel) (n.chars width level) r (Rereads n)

section Rules

variable {width : Nat} {level : Int} {fuel : Nat} {rule : Rule}
  {r : List Char} {loc : Option Loc}

/-- The text of a value stands here. -/
def BeginsValue (s : List Char) : Prop :=
  ∃ width level n v, Forms .value n ∧ s = n.chars width level ++ v

theorem Forms.begins {n : Node} (h : Forms .value n) (r : List Char) :
    BeginsValue (n.chars width level ++ r) :=
  ⟨width, level, n, r, h, rfl⟩

theorem Forms.begins_more {n : Node} (h : Forms .value n)
    (v r : List Char) : BeginsValue (n.chars width level ++ v ++ r) :=
  ⟨width, level, n, v ++ r, h, List.append_assoc ..⟩

theorem BeginsValue.front {s : List Char} (h : BeginsValue s) :
    Front IsSolid s := by
  obtain ⟨width, level, n, v, hn, rfl⟩ := h
  exact value_front_isSolid hn v

theorem BeginsValue.takes_space {s : List Char} (h : BeginsValue s) :
    Takes space [' '] s :=
  Parser.takes_space h.front

theorem BeginsValue.takes_blank {s : List Char} (h : BeginsValue s) :
    Takes blank [' '] s :=
  Parser.takes_blank (by simp; rfl) h.front

/-- In front of another value, no conditional goes on. -/
theorem BeginsValue.stopsElse {s : List Char} (h : BeginsValue s) :
    StopsElse ([' '] ++ s) := by
  obtain ⟨width, level, n, v, hn, rfl⟩ := h
  exact stopsElse_of_gap (by simp; rfl) (value_front_isSolid hn v)
    (notKeyword_value hn (.inl rfl) v)

/-- A value that stands here is not taken for `split`. -/
theorem BeginsValue.refuses_split {s : List Char} (h : BeginsValue s)
    {α : Type} {p : Parser α} :
    Refuses (space >>= fun _ => keyword "split" >>= fun _ => p)
      ([' '] ++ s) := by
  refine Refuses.of_takes_seq h.takes_space (Refuses.bind ?_)
  obtain ⟨width, level, n, v, hn, rfl⟩ := h
  refine refuses_keyword_of_front (c := 's') rfl
    ((value_front hn v).mono fun c hc => ?_)
  rintro rfl
  exact absurd hc (by decide)

theorem yields_control {w : List Char} {Q : Element → Prop}
    (hfront : Front (fun c => c ≠ '{') (w ++ r))
    (h : Yields (controlStatement (Rule.value.parse fuel)) w r Q) :
    Yields (rule.parse (fuel + 1)) w r Q := by
  cases rule <;>
    exact Yields.orElse_right (refuses_block hfront) (Yields.orElse_left h)

theorem yields_block {w : List Char} {Q : Element → Prop}
    (h : Yields (block (Rule.execution.parse fuel)) w r Q) :
    Yields (rule.parse (fuel + 1)) w r Q := by
  cases rule <;> exact Yields.orElse_left h

theorem completes_template {t : Template} (ht : t.Canonical) :
    Completes width level (fuel + 1) .value (.template t) := by
  intro r _
  rw [Tree.chars_template]
  have hfront : Front (fun c => c = '"') (t.print.toList ++ r) := by
    obtain ⟨ss, -, rfl⟩ := ht
    rw [Template.print_ofStretches]
    simp
  have hcontrol : Refuses (controlStatement (Rule.value.parse fuel))
      (t.print.toList ++ r) := by
    refine refuses_controlStatement
      (fun s => refuses_value_closer (.inl rfl)) ?_
    simp only [List.mem_cons, List.not_mem_nil, or_false]
    rintro word (rfl | rfl | rfl) <;>
      exact notKeyword_of_front rfl (hfront.mono (by rintro _ rfl; decide))
  have hblock : Refuses (block (Rule.execution.parse fuel))
      (t.print.toList ++ r) :=
    refuses_block (hfront.mono (by rintro _ rfl; decide))
  refine Yields.orElse_right hblock (Yields.orElse_right hcontrol
    (Yields.orElse_left ((yields_template ht r).mono fun e he => ?_)))
  exact ⟨_, he, rfl⟩

/-! ## Control statements -/

section Control

variable {condition body : Node}

theorem completes_ifThen (fcondition : Forms .value condition)
    (fbody : Forms .value body)
    (hcondition : Completes width level fuel .value condition)
    (hbody : Completes width level fuel .value body) :
    Completes width level (fuel + 1) rule (.ifThen condition body loc) := by
  intro r hr
  have hend : StopsElse r := hr.stopsElse rfl
  rw [Tree.chars_ifThen]
  refine yields_control (by simp) (Yields.orElse_right
    (refuses_forStatement (notKeyword_of_front (c := 'f') rfl (by simp)))
    (Yields.orElse_left ?_))
  rw [ifStatement_eq]
  refine (Yields.element (Q := fun tag children => tag = .ifStmt ∧ ∃ ec eb,
    Rereads condition ec ∧ Rereads body eb ∧ children = [ec, eb]) ?_).mono ?_
  · refine (takes_keyword rfl).seq ?_
    refine (fcondition.begins_more _ r).takes_space.seq ?_
    refine Yields.bind (hcondition _ (.value (fbody.begins r).stopsElse))
      fun ec hec => ?_
    refine (fbody.begins r).takes_blank.seq ?_
    refine (hbody r (.value hend)).bind_nil fun eb heb => ?_
    exact Yields.orElse_right (hend fuel).bind
      (Yields.pure ⟨rfl, ec, eb, hec, heb, rfl⟩)
  · rintro e ⟨_, _, ⟨rfl, ec, eb, ⟨c, hc, hcbare⟩, ⟨b, hb, hbbare⟩, rfl⟩, he⟩
    obtain ⟨loc', hif⟩ := denotes_ifStmt hc hb he
    exact ⟨_, hif, by simp [hcbare, hbbare]⟩

theorem completes_ifElse {trueBody falseBody : Node}
    (fcondition : Forms .value condition) (ftrue : Forms .value trueBody)
    (ffalse : Forms .value falseBody) (hclosed : trueBody.endsOpen = false)
    (hcondition : Completes width level fuel .value condition)
    (htrue : Completes width level fuel .value trueBody)
    (hfalse : Completes width level fuel .value falseBody) :
    Completes width level (fuel + 1) rule
      (.ifElse condition trueBody falseBody loc) := by
  intro r hr
  rw [Tree.chars_ifElse]
  refine yields_control (by simp) (Yields.orElse_right
    (refuses_forStatement (notKeyword_of_front (c := 'f') rfl (by simp)))
    (Yields.orElse_left ?_))
  have helse : Yields (elseBranch (Rule.value.parse fuel))
      ([' '] ++ ("else".toList ++ ([' '] ++ falseBody.chars width level))) r
      (Rereads falseBody) := by
    refine (takes_blank (by simp; rfl) (by simp; decide)).seq ?_
    refine (takes_keyword rfl).seq ?_
    exact (ffalse.begins r).takes_blank.seq (hfalse r (hr.last rfl))
  rw [ifStatement_eq]
  refine (Yields.element (Q := fun tag children => tag = .ifElseStmt ∧
    ∃ ec et ef, Rereads condition ec ∧ Rereads trueBody et ∧
      Rereads falseBody ef ∧ children = [ec, et, ef]) ?_).mono ?_
  · refine (takes_keyword rfl).seq ?_
    refine (fcondition.begins_more _ r).takes_space.seq ?_
    refine Yields.bind
      (hcondition _ (.value (ftrue.begins_more _ r).stopsElse)) fun ec hec => ?_
    refine (ftrue.begins_more _ r).takes_blank.seq ?_
    refine (htrue _ (.value_of_closed hclosed)).bind fun et het => ?_
    exact Yields.orElse_left (helse.finish fun ef hef =>
      ⟨rfl, ec, et, ef, hec, het, hef, rfl⟩)
  · rintro e ⟨_, _, ⟨rfl, ec, et, ef, ⟨c, hc, hcbare⟩, ⟨t, ht, htbare⟩,
      ⟨f, hf, hfbare⟩, rfl⟩, he⟩
    obtain ⟨loc', hif⟩ := denotes_ifElseStmt hc ht hf he
    exact ⟨_, hif, by simp [hcbare, htbare, hfbare]⟩

theorem completes_whileLoop (fcondition : Forms .value condition)
    (fbody : Forms .value body)
    (hcondition : Completes width level fuel .value condition)
    (hbody : Completes width level fuel .value body) :
    Completes width level (fuel + 1) rule
      (.whileLoop condition body loc) := by
  intro r hr
  rw [Tree.chars_whileLoop]
  refine yields_control (by simp) (Yields.orElse_right
    (refuses_forStatement (notKeyword_of_front (c := 'f') rfl (by simp)))
    (Yields.orElse_right (refuses_ifStatement
      (fun _ => refuses_value_closer (.inl rfl))
      (notKeyword_of_front (c := 'i') rfl (by simp))) ?_))
  refine (Yields.tagged .whileStmt (Q := fun children => ∃ ec eb,
    Rereads condition ec ∧ Rereads body eb ∧ children = [ec, eb]) ?_).mono ?_
  · refine (takes_keyword rfl).seq ?_
    refine (fcondition.begins_more _ r).takes_space.seq ?_
    refine Yields.bind (hcondition _ (.value (fbody.begins r).stopsElse))
      fun ec hec => ?_
    refine (fbody.begins r).takes_blank.seq ?_
    exact (hbody r (hr.last rfl)).finish fun eb heb =>
      ⟨ec, eb, hec, heb, rfl⟩
  · rintro e ⟨_, ⟨ec, eb, ⟨c, hc, hcbare⟩, ⟨b, hb, hbbare⟩, rfl⟩, he⟩
    obtain ⟨loc', hwhile⟩ := denotes_whileStmt hc hb he
    exact ⟨_, hwhile, by simp [hcbare, hbbare]⟩

variable {target : String} {list separator : Node}

/-- The head of a loop, up to the list. -/
theorem yields_forHead {α : Type} {p : Element → Element → Parser α}
    {v : List Char} {Q : α → Prop} (htarget : IsName target.toList)
    (flist : Forms .value list)
    (hlist : Completes width level fuel .value list)
    (hv : StopsElse (v ++ r))
    (hp : ∀ et el, IsElement .variableName target.toList [] et →
      Rereads list el → Yields (p et el) v r Q) :
    Yields (do
      keyword "for"
      space
      let et ← variableName
      space
      keyword "in"
      space
      let el ← Rule.value.parse fuel
      p et el)
      ("for".toList ++ ([' '] ++ (target.toList ++ ([' '] ++ ("in".toList ++
        ([' '] ++ (list.chars width level ++ v))))))) r Q := by
  have hfront : Front IsSolid (target.toList ++ ([' '] ++ ("in".toList ++
      ([' '] ++ (list.chars width level ++ v)))) ++ r) := by
    rw [List.append_assoc]
    exact isName_front_isSolid htarget _
  refine (takes_keyword rfl).seq ((takes_space hfront).seq ?_)
  refine (yields_variableName htarget (by simp; rfl)).bind fun et het => ?_
  refine (takes_space (by simp; decide)).seq ((takes_keyword rfl).seq ?_)
  refine (flist.begins_more _ r).takes_space.seq ?_
  exact (hlist _ (.value hv)).bind fun el hel => hp et el het hel

theorem completes_forEach (htarget : IsName target.toList)
    (flist : Forms .value list) (fbody : Forms .value body)
    (hlist : Completes width level fuel .value list)
    (hbody : Completes width level fuel .value body) :
    Completes width level (fuel + 1) rule
      (.forEach target list body .absent loc) := by
  intro r hr
  rw [Tree.chars_forEach]
  refine yields_control (by simp) (Yields.orElse_left ?_)
  refine (Yields.element (Q := fun tag children => tag = .forStmt ∧
    ∃ et el eb, IsElement .variableName target.toList [] et ∧
      Rereads list el ∧ Rereads body eb ∧ children = [et, el, eb]) ?_).mono ?_
  · refine yields_forHead htarget flist hlist (fbody.begins r).stopsElse
      fun et el het hel => ?_
    refine Yields.orElse_right (fbody.begins r).refuses_split ?_
    refine (fbody.begins r).takes_blank.seq ?_
    exact (hbody r (hr.last rfl)).finish fun eb heb =>
      ⟨rfl, et, el, eb, het, hel, heb, rfl⟩
  · rintro e ⟨_, _, ⟨rfl, et, el, eb, het, ⟨l, hl, hlbare⟩, ⟨b, hb, hbbare⟩,
      rfl⟩, he⟩
    obtain ⟨loc', hfor⟩ := denotes_forStmt het hl hb he
    exact ⟨_, hfor, by simp [hlbare, hbbare]⟩

theorem completes_forSplit (htarget : IsName target.toList)
    (flist : Forms .value list) (fbody : Forms .value body)
    (fseparator : Forms .value separator)
    (hlist : Completes width level fuel .value list)
    (hbody : Completes width level fuel .value body)
    (hseparator : Completes width level fuel .value separator) :
    Completes width level (fuel + 1) rule
      (.forEach target list body separator loc) := by
  intro r hr
  rw [Tree.chars_forSplit _ _ _ _ _ _ _ fseparator.isAbsent]
  refine yields_control (by simp) (Yields.orElse_left ?_)
  refine (Yields.element (Q := fun tag children => tag = .forSplitStmt ∧
    ∃ et el es eb, IsElement .variableName target.toList [] et ∧
      Rereads list el ∧ Rereads separator es ∧ Rereads body eb ∧
      children = [et, el, es, eb]) ?_).mono ?_
  · refine yields_forHead htarget flist hlist ?_ fun et el het hel => ?_
    · exact stopsElse_of_gap (w := [' ']) (by simp; rfl) (by simp; decide)
        (notKeyword_of_front (c := 'e') rfl (by simp; decide))
    refine Yields.orElse_left ?_
    refine (takes_space (by simp; decide)).seq ((takes_keyword rfl).seq ?_)
    refine (fseparator.begins_more _ r).takes_space.seq ?_
    refine Yields.bind (hseparator _ (.value (fbody.begins r).stopsElse))
      fun es hes => ?_
    refine (fbody.begins r).takes_blank.seq ?_
    exact (hbody r (hr.last rfl)).finish fun eb heb =>
      ⟨rfl, et, el, es, eb, het, hel, hes, heb, rfl⟩
  · rintro e ⟨_, _, ⟨rfl, et, el, es, eb, het, ⟨l, hl, hlbare⟩,
      ⟨s, hs, hsbare⟩, ⟨b, hb, hbbare⟩, rfl⟩, he⟩
    obtain ⟨loc', hfor⟩ := denotes_forSplitStmt het hl hb hs he
    exact ⟨_, hfor, by simp [hlbare, hbbare, hsbare]⟩

end Control

/-! ## Open statements -/

section Open

variable {held : Node}

/-- Behind a statement's first word the rules of blocks and control statements
are no choice. -/
theorem yields_open {w : List Char} {Q : Element → Prop}
    (hopen : OpenText (w ++ r))
    (h : Yields (openStatement (Rule.value.parse fuel)) w r Q) :
    Yields (Rule.execution.parse (fuel + 1)) w r Q := by
  have hblock : Refuses (block (Rule.execution.parse fuel)) (w ++ r) :=
    refuses_block (hopen.front.mono (by rintro c hc rfl; exact absurd hc (by decide)))
  have hcontrol : Refuses (controlStatement (Rule.value.parse fuel))
      (w ++ r) := by
    refine refuses_controlStatement
      (fun _ => refuses_value_closer (.inl rfl)) fun word hword => ?_
    refine hopen.notKeyword ?_
    revert hword
    simp only [List.mem_cons]
    tauto
  exact Yields.orElse_right hblock (Yields.orElse_right hcontrol h)

theorem completes_assign {target : String} (htarget : IsName target.toList)
    (fheld : Forms .value held)
    (hheld : Completes width level fuel .value held) :
    Completes width level (fuel + 1) .execution (.assign target held loc) := by
  intro r hr
  rw [Tree.chars_assign]
  refine yields_open ?_ (Yields.orElse_left ?_)
  · simpa using OpenText.assign htarget ([' '] ++ held.chars width level ++ r)
  refine (Yields.tagged .setStmt (Q := fun children => ∃ et eh,
    IsElement .variableName target.toList [] et ∧ Rereads held eh ∧
      children = [et, eh]) ?_).mono ?_
  · refine (yields_variableName htarget (by simp; rfl)).bind fun et het => ?_
    refine (takes_space? (by simp; decide)).seq ((takes_char '=' _).seq ?_)
    refine (takes_space? (fheld.begins r).front).seq ?_
    exact (hheld r (hr.last rfl)).finish fun eh heh => ⟨et, eh, het, heh, rfl⟩
  · rintro e ⟨_, ⟨et, eh, het, ⟨h, hh, hbare⟩, rfl⟩, he⟩
    obtain ⟨loc', hset⟩ := denotes_setStmt het hh he
    exact ⟨_, hset, by simp [hbare]⟩

variable {tag : Tag} {word : String}

/-- The two statements with an optional value. -/
def IsOptional (tag : Tag) (word : String) : Prop :=
  tag = .returnStmt ∧ word = "return" ∨ tag = .clearStmt ∧ word = "clear"

theorem IsOptional.word_eq (h : IsOptional tag word) :
    word = "return" ∨ word = "clear" :=
  h.imp And.right And.right

theorem IsOptional.isName (h : IsOptional tag word) :
    IsName word.toList := by
  refine isName_of_mem_reserved word ?_
  rcases h.word_eq with rfl | rfl <;> simp [reserved]

/-- A keyword that is not assigned to is read as one. -/
theorem yields_optional {v : List Char} {Q : Element → Prop}
    (h : IsOptional tag word)
    (hset : Refuses (setStatement (Rule.value.parse fuel))
      (word.toList ++ (v ++ r)))
    (hy : Yields (optionalValue (Rule.value.parse fuel) tag word)
      (word.toList ++ v) r Q) :
    Yields (Rule.execution.parse (fuel + 1)) (word.toList ++ v) r Q := by
  rw [← List.append_assoc] at hset
  refine yields_open ?_ (Yields.orElse_right hset ?_)
  · rw [List.append_assoc]
    exact .keyword h.word_eq _
  · rcases h with ⟨rfl, rfl⟩ | ⟨rfl, rfl⟩
    · exact Yields.orElse_left hy
    · refine Yields.orElse_right (Refuses.tagged (Refuses.bind ?_))
        (Yields.orElse_left hy)
      exact refuses_keyword_of_front (c := 'r') rfl (by simp)

theorem yields_optional_nothing (h : IsOptional tag word)
    (hr : Front (fun c => c = '\n') r) :
    Yields (Rule.execution.parse (fuel + 1)) word.toList r
      (IsElement tag word.toList []) := by
  have hend : atWordEnd r = true :=
    atWordEnd_iff.2 (hr.mono (by rintro _ rfl; rfl))
  have hset : Refuses (setStatement (Rule.value.parse fuel))
      (word.toList ++ ([] ++ r)) :=
    refuses_setStatement h.isName (nameEnd_of_atWordEnd hend)
      (takes_space?_nil (hr.mono (by rintro _ rfl; decide)))
      (hr.mono (by rintro _ rfl; decide))
  have hnone : Refuses (space >>= fun _ => Rule.value.parse fuel >>= fun held =>
      pure [held]) r :=
    (refuses_space (hr.mono (by rintro _ rfl; decide))).bind
  have hy : Yields (optionalValue (Rule.value.parse fuel) tag word)
      (word.toList ++ []) r (IsElement tag word.toList []) := by
    rw [List.append_nil]
    refine (Yields.tagged tag (Q := fun children => children = []) ?_).mono ?_
    · exact (takes_keyword hend).bind_nil fun _ _ =>
        Yields.orElse_right hnone (Yields.pure rfl)
    · rintro e ⟨_, rfl, he⟩
      exact he
  have hyields := yields_optional h hset hy
  rwa [List.append_nil] at hyields

theorem yields_optional_value (h : IsOptional tag word)
    (fheld : Forms .value held)
    (hheld : Completes width level fuel .value held)
    (hr : Follows .value held r) :
    Yields (Rule.execution.parse (fuel + 1))
      (word.toList ++ ([' '] ++ held.chars width level)) r fun e =>
        ∃ w eh, Rereads held eh ∧ IsElement tag w [eh] e := by
  have hset : Refuses (setStatement (Rule.value.parse fuel))
      (word.toList ++ ([' '] ++ (held.chars width level ++ r))) := by
    refine refuses_setStatement h.isName (by simp; rfl)
      (takes_space? (fheld.begins r).front)
      ((value_front fheld r).mono fun c hc => ?_)
    rintro rfl
    exact absurd hc (by decide)
  refine yields_optional h hset ((Yields.tagged tag
    (Q := fun children => ∃ eh, Rereads held eh ∧ children = [eh]) ?_).mono ?_)
  · refine (takes_keyword rfl).seq (Yields.orElse_left ?_)
    refine (fheld.begins r).takes_space.seq ?_
    exact (hheld r hr).finish fun eh heh => ⟨eh, heh, rfl⟩
  · rintro e ⟨_, ⟨eh, heh, rfl⟩, he⟩
    exact ⟨_, eh, heh, he⟩

theorem completes_returnNothing :
    Completes width level (fuel + 1) .execution
      (.returnWith .absent loc) := by
  intro r hr
  rw [Tree.chars_returnNothing]
  refine (yields_optional_nothing (.inl ⟨rfl, rfl⟩) (hr.atLineEnd rfl)).mono
    fun e he => ?_
  obtain ⟨loc', hreturn⟩ := denotes_returnStmt_nil he
  exact ⟨_, hreturn, by simp⟩

theorem completes_returnWith (fheld : Forms .value held)
    (hheld : Completes width level fuel .value held) :
    Completes width level (fuel + 1) .execution (.returnWith held loc) := by
  intro r hr
  rw [Tree.chars_returnWith _ _ _ _ fheld.isAbsent]
  refine (yields_optional_value (.inl ⟨rfl, rfl⟩) fheld hheld
    (hr.last rfl)).mono ?_
  rintro e ⟨w, eh, ⟨h, hh, hbare⟩, he⟩
  obtain ⟨loc', hreturn⟩ := denotes_returnStmt hh he
  exact ⟨_, hreturn, by simp [hbare]⟩

theorem completes_clearNothing :
    Completes width level (fuel + 1) .execution
      (.clearWith .absent loc) := by
  intro r hr
  rw [Tree.chars_clearNothing]
  refine (yields_optional_nothing (.inr ⟨rfl, rfl⟩) (hr.atLineEnd rfl)).mono
    fun e he => ?_
  obtain ⟨loc', hclear⟩ := denotes_clearStmt_nil he
  exact ⟨_, hclear, by simp⟩

theorem completes_clearWith (fheld : Forms .value held)
    (hheld : Completes width level fuel .value held) :
    Completes width level (fuel + 1) .execution (.clearWith held loc) := by
  intro r hr
  rw [Tree.chars_clearWith _ _ _ _ fheld.isAbsent]
  refine (yields_optional_value (.inr ⟨rfl, rfl⟩) fheld hheld
    (hr.last rfl)).mono ?_
  rintro e ⟨w, eh, ⟨h, hh, hbare⟩, he⟩
  obtain ⟨loc', hclear⟩ := denotes_clearStmt hh he
  exact ⟨_, hclear, by simp [hbare]⟩

end Open

/-! ## Lists in parentheses -/

section Comma

variable {α β : Type} {p : Parser α} {text : β → List Char}
  {Q : β → α → Prop} {bs : List β}

/-- What may follow an item of a list in parentheses. -/
abbrev ItemEnd (s : List Char) : Prop := Front (fun c => c = ',' ∨ c = ')') s

theorem stopsElse_of_itemEnd {s : List Char} (h : ItemEnd s) : StopsElse s := by
  refine stopsElse_of_front (h.mono fun c hc => ?_)
  rcases hc with rfl | rfl <;> decide

theorem front_commaList (hfront : ∀ b ∈ bs, ∀ s, Front IsSolid (text b ++ s))
    (s : List Char) :
    Front IsSolid ([',', ' '].intercalate (bs.map text) ++ (')' :: s)) := by
  cases bs with
  | nil => exact (front_cons _ ')' s).2 (by decide)
  | cons b bs =>
      rw [List.map_cons, intercalate_cons_eq, List.append_assoc]
      exact hfront b (by simp) _

/-- The items of a list in parentheses, up to the closing one. -/
theorem yields_commaList
    (hitem : ∀ b ∈ bs, ∀ s, ItemEnd s → Yields p (text b) s (Q b))
    (hfront : ∀ b ∈ bs, ∀ s, Front IsSolid (text b ++ s))
    (hclose : Refuses p (')' :: r)) :
    Yields (sepBy p (do blank; char ','; blank) <|> pure [])
      ([',', ' '].intercalate (bs.map text)) (')' :: r)
      (List.Forall₂ Q bs) := by
  cases bs with
  | nil => exact Yields.orElse_right hclose.bind (Yields.pure .nil)
  | cons b bs =>
      have hcomma : ∀ x ∈ bs, ∀ s,
          Takes (do blank; char ','; blank) [',', ' '] (text x ++ s) := by
        intro x hx s
        refine Yields.seq_nil (takes_blank (by simp) (by simp; decide)) ?_
        refine Yields.seq (v := [' ']) (takes_char ',' _) ?_
        exact takes_blank (by simp; rfl) (hfront x (by simp [hx]) s)
      have hstop : Refuses ((do blank; char ','; blank) >>= fun _ => p)
          (')' :: r) := by
        refine Refuses.bind (Refuses.of_takes_seq (w := []) ?_ ?_)
        · exact takes_blank (by simp) (by simp; decide)
        · exact (refuses_char (by simp)).bind
      exact Yields.orElse_left (Yields.sepBy (F := ItemEnd) hitem hcomma
        (by simp) (by simp) hstop (by simp))

end Comma

theorem completes_call {name : String} {arguments : List Node}
    (hname : IsFunctionName name.toList)
    (farguments : ∀ a ∈ arguments, Forms .value a)
    (harguments : ∀ a ∈ arguments, Completes width level fuel .value a) :
    Completes width level (fuel + 1) .execution (.call name arguments loc) := by
  intro r _
  rw [Tree.chars_call]
  have hfronts : ∀ a ∈ arguments, ∀ s,
      Front IsSolid (a.chars width level ++ s) :=
    fun a ha s => value_front_isSolid (farguments a ha) s
  have hopen : Front IsSolid ([',', ' '].intercalate
      (arguments.map (Tree.chars width level)) ++ [')'] ++ r) := by
    rw [List.append_assoc]
    exact front_commaList hfronts r
  have hname' : ∀ s, NameEnd ('(' :: s) := fun s => (front_cons _ '(' s).2 rfl
  have hword : ∀ word ∈ reserved, ∀ s,
      startsWithWord [word] (name.toList ++ (['('] ++ s)) = false :=
    fun word hword s => startsWithWord_call hword hname s
  refine yields_open ?_ (Yields.orElse_right ?_ (Yields.orElse_right ?_
    (Yields.orElse_right ?_ (Yields.orElse_left ?_))))
  · simpa using OpenText.call hname _
  · rw [List.append_assoc]
    exact refuses_setStatement (b := []) hname.1 (hname' _)
      (takes_space?_nil (by simp)) (by simp)
  · rw [List.append_assoc]
    exact refuses_optionalValue (hword _ (by simp [reserved]) _)
  · rw [List.append_assoc]
    exact refuses_optionalValue (hword _ (by simp [reserved]) _)
  refine (Yields.tagged .call (Q := fun children => ∃ en es,
    IsElement .functionName name.toList [] en ∧
      List.Forall₂ Rereads arguments es ∧ children = en :: es) ?_).mono ?_
  · refine (yields_functionName hname (hname' _)).bind fun en hen => ?_
    refine (takes_char '(' _).seq ?_
    refine Yields.seq_nil (takes_blank (by simp) hopen) ?_
    refine (yields_commaList (fun a ha s hs => harguments a ha s
      (.value (stopsElse_of_itemEnd hs))) hfronts
      (refuses_value_closer (.inr (.inl rfl)))).bind fun es hes => ?_
    refine Yields.seq_nil (takes_blank (by simp) (by simp; decide)) ?_
    exact (takes_char ')' r).finish fun _ _ => ⟨en, es, hen, hes, rfl⟩
  · rintro e ⟨_, ⟨en, es, hen, hes, rfl⟩, he⟩
    obtain ⟨nodes, hnodes, hbare⟩ := exists_bareList hes
    obtain ⟨loc', hcall⟩ := denotes_call hen hnodes he
    exact ⟨_, hcall, by simp [hbare]⟩

/-! ## Lines -/

/-- What may follow a statement: the end of its line, and no `else`. -/
structure LineEnd (s : List Char) : Prop where
  front : Front (fun c => c = '\n') s
  stopsElse : StopsElse s

theorem lineEnd_nil : LineEnd [] :=
  ⟨front_nil _, stopsElse_of_front (front_nil _)⟩

/-- Another line ends a statement unless it goes on with `else`. -/
theorem lineEnd_newline {s : List Char} (hs : Front IsSolid s)
    (h : NotKeyword "else" s) : LineEnd (newline width level ++ s) :=
  ⟨(front_cons _ '\n' _).2 rfl, stopsElse_of_gap isGap_of_mem_newline hs h⟩

theorem lineEnd_brace (s : List Char) :
    LineEnd (newline width level ++ ['}'] ++ s) := by
  rw [List.append_assoc]
  exact lineEnd_newline ((front_cons _ '}' s).2 (by decide))
    (notKeyword_of_front (c := 'e') rfl (by simp))

/-- Lines of one level. -/
theorem yields_lines {α β : Type} {p : Parser α} {text : β → List Char}
    {Q : β → α → Prop} {b : β} {bs : List β}
    (hitem : ∀ x ∈ b :: bs, ∀ s, LineEnd s → Yields p (text x) s (Q x))
    (hfront : ∀ x ∈ b :: bs, ∀ s, Front IsSolid (text x ++ s))
    (helse : ∀ x ∈ b :: bs, ∀ s, NotKeyword "else" (text x ++ s))
    (hr : LineEnd r) (hstop : Refuses (separator >>= fun _ => p) r) :
    Yields (sepBy p separator)
      ((newline width level).intercalate ((b :: bs).map text)) r
      (List.Forall₂ Q (b :: bs)) := by
  refine Yields.sepBy (F := LineEnd) hitem ?_ ?_ hr hstop (by simp [newline])
  · intro x hx s
    exact takes_separator isGap_of_mem_pad (hfront x (by simp [hx]) s)
  · intro x hx s
    rw [List.append_assoc]
    exact lineEnd_newline (hfront x (by simp [hx]) s)
      (helse x (by simp [hx]) s)

/-- The text of a block is read back as the block. -/
theorem yields_blockText {executions : List Node}
    (fexecutions : ∀ e ∈ executions, Forms .execution e)
    (hexecutions : ∀ e ∈ executions,
      Completes width (level + 1) fuel .execution e) (r : List Char) :
    Yields (block (Rule.execution.parse fuel))
      (Tree.chars width level (.block executions loc)) r fun e =>
        e.tag = .block ∧ Rereads (.block executions loc) e := by
  have hparts : Yields (do
      char '{'
      gap
      let es ← sepBy (Rule.execution.parse fuel) separator <|> pure []
      gap
      char '}'
      return es) (Tree.chars width level (.block executions loc)) r
      (List.Forall₂ Rereads executions) := by
    have hclose : Front IsSolid ('}' :: r) := (front_cons _ '}' r).2 (by decide)
    cases executions with
    | nil =>
        rw [Tree.chars_block_nil]
        refine Yields.seq (w := ['{']) (v := ['}']) (takes_char '{' _) ?_
        refine Yields.seq_nil (takes_gap (by simp) hclose) ?_
        refine Yields.bind (w := []) (v := ['}'])
          (P := List.Forall₂ Rereads []) (Yields.orElse_right
            (refuses_execution_closer (.inr (.inr rfl))).bind
            (Yields.pure .nil)) fun es hes => ?_
        refine Yields.seq_nil (takes_gap (by simp) hclose) ?_
        exact (takes_char '}' r).finish fun _ _ => hes
    | cons n nodes =>
        have hstop : Refuses (separator >>= fun _ => Rule.execution.parse fuel)
            (newline width level ++ ['}'] ++ r) := by
          rw [List.append_assoc]
          exact Refuses.of_takes_seq (takes_separator isGap_of_mem_pad hclose)
            (refuses_execution_closer (.inr (.inr rfl)))
        have hfirst : Front IsSolid ((newline width (level + 1)).intercalate
            ((n :: nodes).map (Tree.chars width (level + 1))) ++
            (newline width level ++ ['}']) ++ r) := by
          rw [List.map_cons, intercalate_cons_eq]
          simp only [List.append_assoc]
          exact execution_front (fexecutions n (by simp)) _
        rw [Tree.chars_block]
        refine (takes_char '{' _).seq ?_
        refine (takes_gap isGap_of_mem_newline hfirst).seq ?_
        refine (Yields.orElse_left (yields_lines
          (fun x hx s hs => hexecutions x hx s
            ⟨fun _ => hs.stopsElse, fun _ => hs.front⟩)
          (fun x hx s => execution_front (fexecutions x hx) s)
          (fun x hx s => notKeyword_execution (fexecutions x hx) (.inl rfl) s)
          (lineEnd_brace r) hstop)).bind fun es hes => ?_
        refine (takes_gap isGap_of_mem_newline hclose).seq ?_
        exact (takes_char '}' r).finish fun _ _ => hes
  refine (Yields.tagged .block hparts).mono ?_
  rintro e ⟨es, hes, he⟩
  obtain ⟨nodes, hnodes, hbare⟩ := exists_bareList hes
  obtain ⟨loc', hblock⟩ := denotes_block hnodes he
  obtain ⟨line, col, rfl⟩ := he
  exact ⟨rfl, _, hblock, by simp [hbare]⟩

theorem completes_block {executions : List Node}
    (fexecutions : ∀ e ∈ executions, Forms .execution e)
    (hexecutions : ∀ e ∈ executions,
      Completes width (level + 1) fuel .execution e) :
    Completes width level (fuel + 1) rule (.block executions loc) :=
  fun r _ => yields_block ((yields_blockText fexecutions hexecutions r).mono
    fun _ h => h.2)

end Rules

/-! ## Trees -/

theorem length_le_intercalate (sep : List Char) {x : List Char}
    {xs : List (List Char)} (h : x ∈ xs) : x.length ≤ (sep.intercalate xs).length := by
  induction xs with
  | nil => simp at h
  | cons y ys ih =>
      cases ys with
      | nil =>
          obtain rfl : x = y := by simpa using h
          simp
      | cons z zs =>
          rw [List.intercalate_cons_cons]
          simp only [List.length_append]
          rcases List.mem_cons.1 h with rfl | hx
          · omega
          · have := ih hx
            omega

theorem length_lt_block {width : Nat} {level : Int} {executions : List Node}
    {loc : Option Loc} {e : Node} (h : e ∈ executions) :
    (e.chars width (level + 1)).length <
      (Tree.chars width level (.block executions loc)).length := by
  cases executions with
  | nil => simp at h
  | cons n nodes =>
      have hle := length_le_intercalate (newline width (level + 1))
        (List.mem_map_of_mem (f := Tree.chars width (level + 1)) h)
      rw [Tree.chars_block]
      simp only [List.length_append, List.length_singleton]
      omega

/-- The text of a tree is read back as that tree, with any bound above its
length. -/
theorem parse_completes {rule : Rule} {n : Node} (h : Forms rule n)
    {width : Nat} {level : Int} {fuel : Nat}
    (hfuel : (n.chars width level).length < fuel) :
    Completes width level fuel rule n := by
  -- each part stands behind a character of the text, so it is shorter
  induction h generalizing level fuel <;>
    obtain ⟨fuel, rfl⟩ : ∃ k, fuel = k + 1 := ⟨fuel - 1, by omega⟩
  case template ht => exact completes_template ht
  case block executions loc fexecutions hexecutions =>
    refine completes_block fexecutions fun e he => hexecutions e he ?_
    have hlt := @length_lt_block width level executions loc e he
    omega
  case forEach htarget flist fbody hlist hbody =>
    rw [Tree.chars_forEach] at hfuel
    simp only [List.length_append, List.length_singleton] at hfuel
    exact completes_forEach htarget flist fbody (hlist (by omega))
      (hbody (by omega))
  case forSplit htarget flist fbody fseparator hlist hbody hseparator =>
    rw [Tree.chars_forSplit _ _ _ _ _ _ _ fseparator.isAbsent] at hfuel
    simp only [List.length_append, List.length_singleton] at hfuel
    exact completes_forSplit htarget flist fbody fseparator (hlist (by omega))
      (hbody (by omega)) (hseparator (by omega))
  case ifThen fcondition fbody hcondition hbody =>
    rw [Tree.chars_ifThen] at hfuel
    simp only [List.length_append, List.length_singleton] at hfuel
    exact completes_ifThen fcondition fbody (hcondition (by omega))
      (hbody (by omega))
  case ifElse fcondition ftrue ffalse hclosed hcondition htrue hfalse =>
    rw [Tree.chars_ifElse] at hfuel
    simp only [List.length_append, List.length_singleton] at hfuel
    exact completes_ifElse fcondition ftrue ffalse hclosed
      (hcondition (by omega)) (htrue (by omega)) (hfalse (by omega))
  case whileLoop fcondition fbody hcondition hbody =>
    rw [Tree.chars_whileLoop] at hfuel
    simp only [List.length_append, List.length_singleton] at hfuel
    exact completes_whileLoop fcondition fbody (hcondition (by omega))
      (hbody (by omega))
  case assign htarget fheld hheld =>
    rw [Tree.chars_assign] at hfuel
    simp only [List.length_append, List.length_singleton] at hfuel
    exact completes_assign htarget fheld (hheld (by omega))
  case returnNothing => exact completes_returnNothing
  case returnWith fheld hheld =>
    rw [Tree.chars_returnWith _ _ _ _ fheld.isAbsent] at hfuel
    simp only [List.length_append, List.length_singleton] at hfuel
    exact completes_returnWith fheld (hheld (by omega))
  case clearNothing => exact completes_clearNothing
  case clearWith fheld hheld =>
    rw [Tree.chars_clearWith _ _ _ _ fheld.isAbsent] at hfuel
    simp only [List.length_append, List.length_singleton] at hfuel
    exact completes_clearWith fheld (hheld (by omega))
  case call hname farguments harguments =>
    refine completes_call hname farguments fun a ha => harguments a ha ?_
    have hle := length_le_intercalate [',', ' ']
      (List.mem_map_of_mem (f := Tree.chars width level) ha)
    rw [Tree.chars_call] at hfuel
    simp only [List.length_append, List.length_singleton] at hfuel
    omega

/-! ## Definitions and programs -/

/-- The text of a definition. -/
def functionChars (width : Nat) (f : Function) : List Char :=
  f.toTree.chars width 0

/-- The element stands for the definition, up to places. -/
def RereadsFunction (f : Function) (e : Element) : Prop :=
  ∃ f', DenotesFunction f' e ∧ f'.bare = f.bare

theorem yields_function {f : Function} (h : FormsFunction f) {width : Nat}
    {fuel : Nat} (hfuel : (functionChars width f).length < fuel)
    (r : List Char) :
    Yields (functionRule (Rule.execution.parse fuel)) (functionChars width f) r
      (RereadsFunction f) := by
  obtain ⟨name, params, body, source, loc⟩ := f
  obtain ⟨hname, hparams, executions, loc', hbody, fexecutions⟩ := h
  dsimp only at hname hparams hbody
  subst hbody
  have htext : functionChars width
      ⟨name, params, .block executions loc', source, loc⟩ = _ :=
    Tree.chars_function ..
  have hlength := congrArg List.length htext
  simp only [List.length_append, List.length_singleton] at hlength
  rw [htext]
  have hfronts : ∀ p ∈ params, ∀ s, Front IsSolid (p.print.toList ++ s) :=
    fun p hp s => param_front (hparams p hp) s
  have hblock : Yields (block (Rule.execution.parse fuel))
      (Tree.chars width 0 (.block executions loc')) r fun e =>
        e.tag = .block ∧ Rereads (.block executions loc') e := by
    refine yields_blockText fexecutions (fun e he => ?_) r
    have hlt := @length_lt_block width 0 executions loc' e he
    exact parse_completes (fexecutions e he) (by omega)
  have hbrace : Front IsSolid
      (Tree.chars width 0 (.block executions loc') ++ r) :=
    execution_front (.block fexecutions) r
  refine (Yields.tagged .function (Q := fun children => ∃ en es eb,
    IsElement .functionName name.toList [] en ∧
      List.Forall₂ NamesParam params es ∧ eb.tag = .block ∧
      Rereads (.block executions loc') eb ∧
      children = en :: es ++ [eb]) ?_).mono ?_
  · refine (takes_keyword rfl).seq ((takes_space ?_).seq ?_)
    · rw [List.append_assoc]
      exact isName_front_isSolid hname.1 _
    refine (yields_functionName hname (by simp; rfl)).bind fun en hen => ?_
    refine Yields.seq_nil (takes_blank (by simp) (by simp; decide)) ?_
    refine (takes_char '(' _).seq (Yields.seq_nil (takes_blank (by simp) ?_) ?_)
    · rw [List.append_assoc]
      exact front_commaList hfronts _
    refine Yields.bind (yields_commaList (Q := NamesParam)
      (fun p hp s hs => ?_) hfronts (refuses_formalParam (by simp; decide)))
      fun es hes => ?_
    · refine yields_formalParam (hparams p hp) (hs.mono ?_)
      rintro c (rfl | rfl) <;> rfl
    refine Yields.seq_nil (takes_blank (by simp) (by simp; decide)) ?_
    refine (takes_char ')' _).seq ((takes_blank (by simp; rfl) hbrace).seq ?_)
    exact hblock.finish fun eb heb => ⟨en, es, eb, hen, hes, heb.1, heb.2, rfl⟩
  · rintro e ⟨_, ⟨en, es, eb, hen, hes, htag, ⟨b, hb, hbare⟩, rfl⟩, he⟩
    obtain ⟨source', loc'', hf⟩ := denotes_function hen hes hparams htag hb he
    exact ⟨_, hf, by simp [FunctionOf.bare, hbare]⟩

/-- The items of a program: its definitions, then its statements. -/
abbrev Item := Function ⊕ Node

/-- The text of an item. -/
def itemChars (width : Nat) : Item → List Char :=
  Sum.elim (functionChars width) (Tree.chars width 0)

/-- The item is of the form that the grammar gives it. -/
def FormsItem : Item → Prop :=
  Sum.elim FormsFunction (Forms .execution)

/-- The element is what the text of the item is read as. -/
def RereadsItem : Item → Element → Prop :=
  Sum.elim RereadsFunction Rereads

theorem item_front {i : Item} (h : FormsItem i) (width : Nat)
    (s : List Char) : Front IsSolid (itemChars width i ++ s) := by
  cases i with
  | inl f =>
      have htext : itemChars width (.inl f) = _ := Tree.chars_function ..
      rw [htext]
      exact (front_cons _ 'f' _).2 (by decide)
  | inr n => exact execution_front h s

theorem notKeyword_item {i : Item} (h : FormsItem i) (width : Nat)
    (s : List Char) : NotKeyword "else" (itemChars width i ++ s) := by
  cases i with
  | inl f =>
      have htext : itemChars width (.inl f) = _ := Tree.chars_function ..
      rw [htext]
      exact notKeyword_of_front (c := 'e') rfl (by simp)
  | inr n => exact notKeyword_execution h (.inl rfl) s

theorem yields_item {i : Item} (h : FormsItem i) {width fuel : Nat}
    (hfuel : (itemChars width i).length < fuel) {s : List Char}
    (hs : LineEnd s) :
    Yields (functionRule (Rule.execution.parse fuel) <|>
        executionRule (Rule.value.parse fuel) (Rule.execution.parse fuel))
      (itemChars width i) s (RereadsItem i) := by
  cases i with
  | inl f => exact Yields.orElse_left (yields_function h hfuel s)
  | inr n =>
      refine Yields.orElse_right (refuses_functionRule
        (notKeyword_execution h (.inr rfl) s)) ?_
      exact parse_completes h (Nat.lt_succ_of_lt hfuel) s
        ⟨fun _ => hs.stopsElse, fun _ => hs.front⟩

/-- The text of items: each on lines of its own. -/
def itemsChars (width : Nat) (items : List Item) : List Char :=
  (newline width 0).intercalate (items.map (itemChars width))

/-- The text of items is read back as these items. -/
theorem yields_program {items : List Item} (h : ∀ i ∈ items, FormsItem i)
    {width fuel : Nat} (hfuel : (itemsChars width items).length < fuel) :
    Yields (programRule (Rule.value.parse fuel) (Rule.execution.parse fuel))
      (itemsChars width items) [] (List.Forall₂ RereadsItem items) := by
  have hshort : Shortens 1 (functionRule (Rule.execution.parse fuel) <|>
      executionRule (Rule.value.parse fuel) (Rule.execution.parse fuel)) :=
    (shortens_functionRule (shortens_parse fuel .execution).weaken).orElse
      (shortens_parse (fuel + 1) .execution)
  have hend : Takes gap [] [] := takes_gap (by simp) (front_nil _)
  have hparts : Yields (sepBy (functionRule (Rule.execution.parse fuel) <|>
      executionRule (Rule.value.parse fuel) (Rule.execution.parse fuel))
      separator <|> pure []) (itemsChars width items) []
      (List.Forall₂ RereadsItem items) := by
    cases items with
    | nil =>
        exact Yields.orElse_right hshort.refuses_nil.bind (Yields.pure .nil)
    | cons i items =>
        refine Yields.orElse_left (yields_lines (fun x hx s hs => ?_)
          (fun x hx s => item_front (h x hx) width s)
          (fun x hx s => notKeyword_item (h x hx) width s) lineEnd_nil
          refuses_separator_nil.bind)
        have hle : (itemChars width x).length ≤
            (itemsChars width (i :: items)).length :=
          length_le_intercalate _ (List.mem_map_of_mem hx)
        exact yields_item (h x hx) (by omega) hs
  refine Yields.seq_nil (takes_gap (by simp) ?_) ?_
  · cases items with
    | nil => exact front_nil _
    | cons i items =>
        rw [itemsChars, List.map_cons, intercalate_cons_eq, List.append_assoc]
        exact item_front (h i (by simp)) width _
  · exact hparts.bind_nil fun es hes => Yields.seq_nil hend (Yields.pure hes)

theorem ofElements_rereads {items : List Item} {es : List Element}
    (h : List.Forall₂ RereadsItem items es) :
    ∃ q : Program, ProgramOf.ofElements Document.name es = .ok q ∧
      q.functions.map FunctionOf.bare =
        (items.filterMap Sum.getLeft?).map FunctionOf.bare ∧
      q.executions.map Tree.bare =
        (items.filterMap Sum.getRight?).map Tree.bare := by
  induction h with
  | nil => exact ⟨{}, rfl, rfl, rfl⟩
  | @cons i e items es he _ ih =>
      obtain ⟨q, hq, hfunctions, hexecutions⟩ := ih
      cases i with
      | inl f =>
          obtain ⟨f', hf', hbare⟩ := he
          exact ⟨_, ofElements_function hf' hq, by simp [hbare, hfunctions],
            hexecutions⟩
      | inr n =>
          obtain ⟨n', hn', hbare⟩ := he
          exact ⟨_, ofElements_execution hn' hq, hfunctions,
            by simp [hbare, hexecutions]⟩

/-- The items of a program in the order in which they are printed. -/
def programItems (p : Program) : List Item :=
  p.functions.map .inl ++ p.executions.map .inr

theorem print_toList (p : Program) (width : Nat) :
    (p.print width).toList = itemsChars width (programItems p) := by
  have hnewline : newline width 0 = "\n".toList := by simp [newline, pad]
  have htree : p.toTree.printAt width 0 = "\n".intercalate
      (Tree.printList width 0 (p.functions.map FunctionOf.toTree) ++
        Tree.printList width 0 p.executions) := rfl
  rw [Program.print, htree, String.toList_intercalate, itemsChars, hnewline,
    Tree.printList_eq_map, Tree.printList_eq_map, programItems]
  simp [Function.comp_def, itemChars, functionChars, Tree.chars]

theorem forms_programItems {p : Program} (h : FormsProgram p) :
    ∀ i ∈ programItems p, FormsItem i := by
  intro i hi
  rcases List.mem_append.1 hi with hi | hi
  · obtain ⟨f, hf, rfl⟩ := List.mem_map.1 hi
    exact h.functions f hf
  · obtain ⟨n, hn, rfl⟩ := List.mem_map.1 hi
    exact h.executions n hn

end Grammar

open Grammar in
theorem Program.parse_eq_ok {s : String} {p : Program} :
    Program.parse s = .ok p ↔
      ∃ items, items? s = some items ∧
        ProgramOf.ofElements Document.name items = .ok p := by
  delta Program.parse
  generalize items? s = result
  cases result with
  | none => simp
  | some items => simp

open Grammar in
/-- The program of an accepted source is of the right form. -/
theorem Program.forms_of_parse {s : String} {p : Program} (h : Program.parse s = .ok p) :
    FormsProgram p := by
  obtain ⟨items, hitems, hp⟩ := Program.parse_eq_ok.1 h
  obtain ⟨q, hq, hforms⟩ := items?_formsProgram hitems
  obtain rfl : q = p := Except.ok.inj (hq.symm.trans hp)
  exact hforms

open Grammar in
/-- Printing undoes parsing: the program of an accepted source is printed, at
any width, as a source that is accepted and gives the same program up to
places and texts. -/
theorem Program.parse_print {s : String} {p : Program}
    (h : Program.parse s = .ok p) (width : Nat) :
    ∃ q, Program.parse (p.print width) = .ok q ∧ q.bare = p.bare := by
  have hforms := Program.forms_of_parse h
  have htext := print_toList p width
  obtain ⟨es, hes, hrule⟩ := yields_program (forms_programItems hforms)
    (Nat.lt_succ_self (itemsChars width (programItems p)).length)
    { rest := itemsChars width (programItems p) } (List.append_nil _).symm
  have hreread : items? (p.print width) = some es := by
    refine items?_eq_some.2 ⟨_, by rw [htext]; exact hrule, ?_⟩
    rw [Cursor.skip_rest, List.drop_length]
  obtain ⟨q, hq, hfunctions, hexecutions⟩ := ofElements_rereads hes
  refine ⟨q, Program.parse_eq_ok.2 ⟨es, hreread, hq⟩, ?_⟩
  simp [ProgramOf.bare, hfunctions, hexecutions, programItems,
    List.filterMap_append, List.filterMap_map, Function.comp_def]

/-- A conditional without `else` in front of a variable of that name. -/
theorem Program.parse_print_assigned_else :
    ∃ p q, Program.parse "if a \x7bb\x7d\nelse = c" = .ok p ∧
      Program.parse (p.print standardIndent) = .ok q ∧ q.bare = p.bare := by
  have haccepted :
      (Program.parse "if a \x7bb\x7d\nelse = c").toOption.isSome = true := by
    decide +kernel
  cases hp : Program.parse "if a \x7bb\x7d\nelse = c" with
  | error e => simp [hp, Except.toOption] at haccepted
  | ok p =>
      obtain ⟨q, hq, hbare⟩ := Program.parse_print hp standardIndent
      exact ⟨p, q, rfl, hq, hbare⟩

end TextShell
