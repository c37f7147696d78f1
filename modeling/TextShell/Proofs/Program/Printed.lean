import TextShell.Program.Printer
import TextShell.Proofs.Program.Forms

/-!
# The text of printed trees

What a printed tree looks like as text, one equation for each form, and how it
begins.  A value begins with a quote, a brace or the letter of its keyword, so
that no value is taken for `split` or `else`.  A statement may begin with any
name, keywords included, because every name can be assigned to: then the name
is followed by ` =`, and no rule that starts with a keyword goes on there.

## Main results

* `value_front`, `execution_front` — how values and statements begin.
* `notKeyword_execution` — a statement that begins with `else` or `fn` is an
  assignment.
* `refuses_forStatement` … `refuses_functionRule` — what rules that start with
  a keyword leave alone.
-/

namespace TextShell

/-- The blanks in front of a line. -/
def pad (width : Nat) (level : Int) : List Char :=
  List.replicate (width * level.toNat) ' '

theorem isGap_of_mem_pad {width : Nat} {level : Int} :
    ∀ c ∈ pad width level, Text.isGap c = true := by
  intro c hc
  rw [List.eq_of_mem_replicate hc]
  rfl

/-- A line end and the blanks behind it. -/
def newline (width : Nat) (level : Int) : List Char :=
  '\n' :: pad width level

theorem isGap_of_mem_newline {width : Nat} {level : Int} :
    ∀ c ∈ newline width level, Text.isGap c = true :=
  List.forall_mem_cons.2 ⟨rfl, isGap_of_mem_pad⟩

namespace Tree

/-- The text of a printed tree. -/
def chars (width : Nat) (level : Int) (n : Node) : List Char :=
  (n.printAt width level).toList

section Text

variable (width : Nat) (level : Int)

theorem printList_eq_map (nodes : List Node) :
    printList width level nodes = nodes.map (printAt width level) := by
  induction nodes with
  | nil => rfl
  | cons n nodes ih => rw [printList, ih, List.map_cons]

theorem chars_template (t : Template) :
    chars width level (.template t) = t.print.toList := rfl

theorem chars_block_nil (loc : Option Loc) :
    chars width level (.block [] loc) = ['{', '}'] := by
  rw [chars, printAt]
  simp

/-- Indented lines are the first line's blanks, and lines behind line ends. -/
theorem intercalate_indented {α : Type} (sep inner : List Char)
    (text : α → List Char) (x : α) (xs : List α) :
    sep.intercalate ((x :: xs).map fun y => inner ++ text y) =
      inner ++ (sep ++ inner).intercalate ((x :: xs).map text) := by
  rw [List.map_cons, List.map_cons, Parser.intercalate_cons_eq,
    Parser.intercalate_cons_eq, List.flatMap_map, List.flatMap_map]
  simp only [List.append_assoc]

theorem chars_block (n : Node) (nodes : List Node) (loc : Option Loc) :
    chars width level (.block (n :: nodes) loc) =
      ['{'] ++ (newline width (level + 1) ++
        ((newline width (level + 1)).intercalate
          ((n :: nodes).map (chars width (level + 1))) ++
          (newline width level ++ ['}']))) := by
  have hlines : ("\n".intercalate ((printList width (level + 1)
      (n :: nodes)).map (indent width (level + 1) ++ ·))).toList =
      pad width (level + 1) ++ (newline width (level + 1)).intercalate
        ((n :: nodes).map (chars width (level + 1))) := by
    rw [String.toList_intercalate, printList_eq_map, List.map_map,
      List.map_map]
    refine Eq.trans ?_ (intercalate_indented ['\n'] (pad width (level + 1))
      (chars width (level + 1)) n nodes)
    simp [Function.comp_def, indent, pad, chars]
  rw [chars, printAt, List.isEmpty_cons]
  simp only [Bool.false_eq_true, if_false, String.toList_append, hlines]
  generalize (newline width (level + 1)).intercalate _ = lines
  simp [newline, indent, pad]

theorem chars_forEach (target : String) (list body : Node)
    (loc : Option Loc) :
    chars width level (.forEach target list body .absent loc) =
      "for".toList ++ ([' '] ++ (target.toList ++ ([' '] ++ ("in".toList ++
        ([' '] ++ (list.chars width level ++ ([' '] ++
          body.chars width level))))))) := by
  rw [chars, printAt]
  simp [chars, isAbsent]

theorem chars_forSplit (target : String) (list body separator : Node)
    (loc : Option Loc) (h : separator.isAbsent = false) :
    chars width level (.forEach target list body separator loc) =
      "for".toList ++ ([' '] ++ (target.toList ++ ([' '] ++ ("in".toList ++
        ([' '] ++ (list.chars width level ++ ([' '] ++ ("split".toList ++
          ([' '] ++ (separator.chars width level ++ ([' '] ++
            body.chars width level))))))))))) := by
  rw [chars, printAt]
  simp [chars, h]

theorem chars_ifThen (condition body : Node) (loc : Option Loc) :
    chars width level (.ifThen condition body loc) =
      "if".toList ++ ([' '] ++ (condition.chars width level ++ ([' '] ++
        body.chars width level))) := by
  change ("if " ++ condition.printAt width level ++ " " ++
    body.printAt width level).toList = _
  simp [chars]

theorem chars_ifElse (condition trueBody falseBody : Node)
    (loc : Option Loc) :
    chars width level (.ifElse condition trueBody falseBody loc) =
      "if".toList ++ ([' '] ++ (condition.chars width level ++ ([' '] ++
        (trueBody.chars width level ++ ([' '] ++ ("else".toList ++ ([' '] ++
          falseBody.chars width level))))))) := by
  change ("if " ++ condition.printAt width level ++ " " ++
    trueBody.printAt width level ++ " else " ++
    falseBody.printAt width level).toList = _
  simp [chars]

theorem chars_whileLoop (condition body : Node) (loc : Option Loc) :
    chars width level (.whileLoop condition body loc) =
      "while".toList ++ ([' '] ++ (condition.chars width level ++ ([' '] ++
        body.chars width level))) := by
  change ("while " ++ condition.printAt width level ++ " " ++
    body.printAt width level).toList = _
  simp [chars]

theorem chars_assign (target : String) (held : Node) (loc : Option Loc) :
    chars width level (.assign target held loc) =
      target.toList ++ ([' '] ++ (['='] ++ ([' '] ++
        held.chars width level))) := by
  change (target ++ " = " ++ held.printAt width level).toList = _
  simp [chars]

theorem chars_returnNothing (loc : Option Loc) :
    chars width level (.returnWith .absent loc) = "return".toList := by
  rw [chars, printAt]
  simp [isAbsent]

theorem chars_returnWith (held : Node) (loc : Option Loc)
    (h : held.isAbsent = false) :
    chars width level (.returnWith held loc) =
      "return".toList ++ ([' '] ++ held.chars width level) := by
  change (if held.isAbsent then "return"
    else "return " ++ held.printAt width level).toList = _
  simp [chars, h]

theorem chars_clearNothing (loc : Option Loc) :
    chars width level (.clearWith .absent loc) = "clear".toList := by
  rw [chars, printAt]
  simp [isAbsent]

theorem chars_clearWith (held : Node) (loc : Option Loc)
    (h : held.isAbsent = false) :
    chars width level (.clearWith held loc) =
      "clear".toList ++ ([' '] ++ held.chars width level) := by
  change (if held.isAbsent then "clear"
    else "clear " ++ held.printAt width level).toList = _
  simp [chars, h]

theorem chars_call (name : String) (arguments : List Node)
    (loc : Option Loc) :
    chars width level (.call name arguments loc) =
      name.toList ++ (['('] ++
        ([',', ' '].intercalate (arguments.map (chars width level)) ++
          [')'])) := by
  have hcomp : String.toList ∘ printAt width level = chars width level := rfl
  rw [chars, printAt, printList_eq_map]
  simp [String.toList_intercalate, hcomp]

theorem chars_function (name : String) (params : List Param) (body : Node)
    (source : Option String) (loc : Option Loc) :
    chars width level (.function name params body source loc) =
      "fn".toList ++ ([' '] ++ (name.toList ++ (['('] ++
        ([',', ' '].intercalate (params.map fun p => p.print.toList) ++
          ([')'] ++ ([' '] ++ body.chars width level)))))) := by
  change (signature name params ++ " " ++ body.printAt width level).toList = _
  simp [signature, String.toList_intercalate, Function.comp_def, chars]

end Text

end Tree

namespace Grammar

open TextShell.Parser

/-! ## How trees begin -/

/-- What the text of a value begins with. -/
def valueStarts : List (List Char) :=
  [['"'], ['{'], "for ".toList, "if ".toList, "while ".toList]

theorem Forms.isAbsent {rule : Rule} {n : Node} (h : Forms rule n) :
    n.isAbsent = false := by
  cases h <;> rfl

section Begin

variable {width : Nat} {level : Int} {n : Node}

theorem value_start (h : Forms .value n) :
    ∃ v ∈ valueStarts, ∃ s, n.chars width level = v ++ s := by
  cases h with
  | template ht =>
      obtain ⟨ss, -, rfl⟩ := ht
      rw [Tree.chars_template, Template.print_ofStretches]
      exact ⟨['"'], by simp [valueStarts], _, rfl⟩
  | @block _ executions loc hes =>
      refine ⟨['{'], by simp [valueStarts], ?_⟩
      cases executions with
      | nil => exact ⟨['}'], Tree.chars_block_nil ..⟩
      | cons e es => exact ⟨_, Tree.chars_block ..⟩
  | forEach =>
      rw [Tree.chars_forEach]
      exact ⟨"for ".toList, by simp [valueStarts], _, by simp; rfl⟩
  | forSplit _ _ _ hseparator =>
      rw [Tree.chars_forSplit _ _ _ _ _ _ _ hseparator.isAbsent]
      exact ⟨"for ".toList, by simp [valueStarts], _, by simp; rfl⟩
  | ifThen =>
      rw [Tree.chars_ifThen]
      exact ⟨"if ".toList, by simp [valueStarts], _, by simp; rfl⟩
  | ifElse =>
      rw [Tree.chars_ifElse]
      exact ⟨"if ".toList, by simp [valueStarts], _, by simp; rfl⟩
  | whileLoop =>
      rw [Tree.chars_whileLoop]
      exact ⟨"while ".toList, by simp [valueStarts], _, by simp; rfl⟩

/-- The first character of a value. -/
theorem value_front (h : Forms .value n) (r : List Char) :
    Front (fun c => c ∈ ['"', '{', 'f', 'i', 'w'])
      (n.chars width level ++ r) := by
  obtain ⟨v, hv, s, heq⟩ := @value_start width level n h
  rw [heq]
  simp only [valueStarts, List.mem_cons, List.not_mem_nil, or_false] at hv
  rcases hv with rfl | rfl | rfl | rfl | rfl <;> simp

theorem value_front_isSolid (h : Forms .value n) (r : List Char) :
    Front IsSolid (n.chars width level ++ r) := by
  refine (value_front h r).mono fun c hc => ?_
  simp only [List.mem_cons, List.not_mem_nil, or_false] at hc
  rcases hc with rfl | rfl | rfl | rfl | rfl <;> decide

/-- The texts that open statements begin with. -/
inductive OpenText : List Char → Prop
  | assign {w : List Char} (hw : IsName w) (s : List Char) :
      OpenText (w ++ ([' '] ++ (['='] ++ s)))
  | keyword {word : String} (hword : word = "return" ∨ word = "clear")
      (s : List Char) : OpenText (word.toList ++ s)
  | call {w : List Char} (hw : IsFunctionName w) (s : List Char) :
      OpenText (w ++ (['('] ++ s))

/-- A statement is one of those that are values too, or an open one. -/
theorem execution_start (h : Forms .execution n) (r : List Char) :
    Forms .value n ∨ OpenText (n.chars width level ++ r) := by
  cases h with
  | block hes => exact .inl (.block hes)
  | forEach htarget hlist hbody => exact .inl (.forEach htarget hlist hbody)
  | forSplit htarget hlist hbody hseparator =>
      exact .inl (.forSplit htarget hlist hbody hseparator)
  | ifThen hcondition hbody => exact .inl (.ifThen hcondition hbody)
  | ifElse hcondition htrue hfalse hclosed =>
      exact .inl (.ifElse hcondition htrue hfalse hclosed)
  | whileLoop hcondition hbody => exact .inl (.whileLoop hcondition hbody)
  | assign htarget =>
      rw [Tree.chars_assign]
      simp only [List.append_assoc]
      exact .inr (.assign htarget _)
  | returnNothing =>
      rw [Tree.chars_returnNothing]
      exact .inr (.keyword (.inl rfl) _)
  | returnWith hheld =>
      rw [Tree.chars_returnWith _ _ _ _ hheld.isAbsent, List.append_assoc]
      exact .inr (.keyword (.inl rfl) _)
  | clearNothing =>
      rw [Tree.chars_clearNothing]
      exact .inr (.keyword (.inr rfl) _)
  | clearWith hheld =>
      rw [Tree.chars_clearWith _ _ _ _ hheld.isAbsent, List.append_assoc]
      exact .inr (.keyword (.inr rfl) _)
  | call hname =>
      rw [Tree.chars_call]
      simp only [List.append_assoc]
      exact .inr (.call hname _)

theorem isName_front {w : List Char} (h : IsName w) (r : List Char) :
    Front (fun c => isNameStart c = true) (w ++ r) := by
  match w, h with
  | c :: rest, ⟨hc, _⟩ => exact (front_cons _ c _).2 hc

theorem isName_front_isSolid {w : List Char} (h : IsName w) (r : List Char) :
    Front IsSolid (w ++ r) :=
  (isName_front h r).mono fun _ hc =>
    isSolid_of_isNameChar (isNameStart_isNameChar hc)

theorem param_front {p : Param} (h : Param.IsNamed p) (r : List Char) :
    Front IsSolid (p.print.toList ++ r) := by
  cases hv : p.isVariadic with
  | true =>
      rw [print_of_isVariadic hv]
      exact (front_cons _ '%' _).2 (by decide)
  | false =>
      rw [print_of_not_isVariadic hv]
      exact isName_front_isSolid h r

theorem OpenText.front {s : List Char} (h : OpenText s) :
    Front (fun c => isNameStart c = true) s := by
  cases h with
  | assign hw => exact isName_front hw _
  | keyword hword => rcases hword with rfl | rfl <;> simp <;> decide
  | call hw => exact isName_front hw.1 _

theorem execution_front (h : Forms .execution n) (r : List Char) :
    Front IsSolid (n.chars width level ++ r) := by
  rcases @execution_start width level n h r with hvalue | hopen
  · exact value_front_isSolid hvalue r
  · exact hopen.front.mono fun c hc =>
      isSolid_of_isNameChar (isNameStart_isNameChar hc)

/-! ## Words that are no keywords -/

/-- The text does not begin with the word, except where it is assigned to. -/
def NotKeyword (word : String) (s : List Char) : Prop :=
  startsWithWord [word] s = true →
    ∃ s', s = word.toList ++ ([' '] ++ ('=' :: s'))

theorem notKeyword_of_false {word : String} {s : List Char}
    (h : startsWithWord [word] s = false) : NotKeyword word s := by
  intro hstart
  simp [h] at hstart

/-- A text that differs from the word within its length. -/
theorem notKeyword_of_ne {word : String} {s : List Char}
    (h : ∀ r, s ≠ word.toList ++ r) : NotKeyword word s := by
  intro hstart
  obtain ⟨word', hmem, r, heq, -⟩ := startsWithWord_iff.1 hstart
  obtain rfl : word' = word := by simpa using hmem
  exact absurd heq (h r)

theorem notKeyword_of_front {word : String} {s : List Char} {c : Char}
    {rest : List Char} (hword : word.toList = c :: rest)
    (h : Front (fun d => d ≠ c) s) : NotKeyword word s := by
  refine notKeyword_of_ne fun r heq => ?_
  rw [heq, hword] at h
  exact (front_cons _ _ _).1 h rfl

/-- Where a name is assigned to, it is no keyword. -/
theorem notKeyword_assign {word : String} {w : List Char}
    (hword : ∀ c ∈ word.toList, isNameChar c = true) (hw : IsName w)
    (s : List Char) : NotKeyword word (w ++ ([' '] ++ (['='] ++ s))) := by
  intro hstart
  have hwords : ∀ word' ∈ [word], ∀ c ∈ word'.toList, isNameChar c = true := by
    simpa using hword
  obtain ⟨hmem, -⟩ := (startsWithWord_name hwords hw.isNameChar
    ((front_cons _ ' ' _).2 rfl)).1 hstart
  obtain rfl : String.ofList w = word := by simpa using hmem
  exact ⟨s, by simp⟩

/-- A function's name in front of its arguments is no keyword. -/
theorem startsWithWord_call {word : String} {w : List Char}
    (hword : word ∈ reserved) (hw : IsFunctionName w) (s : List Char) :
    startsWithWord [word] (w ++ (['('] ++ s)) = false := by
  refine Bool.eq_false_iff.2 fun hstart => hw.2 ?_
  have hwords : ∀ word' ∈ [word], ∀ c ∈ word'.toList, isNameChar c = true := by
    simpa using isNameChar_of_mem_reserved word hword
  obtain ⟨hmem, -⟩ := (startsWithWord_name hwords hw.1.isNameChar
    ((front_cons _ '(' _).2 rfl)).1 hstart
  obtain rfl : String.ofList w = word := by simpa using hmem
  exact hword

theorem notKeyword_value {word : String} (h : Forms .value n)
    (hword : word = "else" ∨ word = "split" ∨ word = "fn") (r : List Char) :
    NotKeyword word (n.chars width level ++ r) := by
  obtain ⟨v, hv, s, heq⟩ := @value_start width level n h
  refine notKeyword_of_ne fun r' => ?_
  rw [heq]
  simp only [valueStarts, List.mem_cons, List.not_mem_nil, or_false] at hv
  rcases hword with rfl | rfl | rfl <;>
    rcases hv with rfl | rfl | rfl | rfl | rfl <;> simp

/-- An open statement that begins with another rule's keyword is an
assignment. -/
theorem OpenText.notKeyword {word : String} {s : List Char} (h : OpenText s)
    (hword : word ∈ ["for", "if", "while", "else", "fn"]) :
    NotKeyword word s := by
  have hreserved : word ∈ reserved := by
    revert hword
    simp only [reserved, List.mem_cons]
    tauto
  cases h with
  | assign hw =>
      exact notKeyword_assign (isNameChar_of_mem_reserved word hreserved) hw _
  | keyword hkeyword s =>
      refine notKeyword_of_ne fun r => ?_
      simp only [List.mem_cons, List.not_mem_nil, or_false] at hword
      rcases hkeyword with rfl | rfl <;>
        rcases hword with rfl | rfl | rfl | rfl | rfl <;> simp
  | call hw => exact notKeyword_of_false (startsWithWord_call hreserved hw _)

/-- A statement that begins with `else` or `fn` is an assignment. -/
theorem notKeyword_execution {word : String} (h : Forms .execution n)
    (hword : word = "else" ∨ word = "fn") (r : List Char) :
    NotKeyword word (n.chars width level ++ r) := by
  rcases @execution_start width level n h r with hvalue | hopen
  · exact notKeyword_value hvalue (hword.imp_right .inr) r
  · exact hopen.notKeyword (by rcases hword with rfl | rfl <;> simp)

end Begin

/-! ## What rules leave alone -/

section Refusals

variable {s : List Char} {fuel : Nat}

theorem refuses_block {execution : Parser Element}
    (h : Front (fun c => c ≠ '{') s) : Refuses (block execution) s :=
  Refuses.tagged (refuses_char h).bind

/-- A rule that starts with a keyword, where nothing can follow the keyword
but what may be assigned. -/
theorem refuses_keyword_seq {α : Type} {word : String} {sp : Parser Unit}
    {p : Parser α} (hsp : ∀ s, Takes sp [' '] ('=' :: s))
    (hp : ∀ s, Refuses p ('=' :: s)) (h : NotKeyword word s) :
    Refuses (keyword word >>= fun _ => sp >>= fun _ => p) s := by
  cases hstart : startsWithWord [word] s with
  | false => exact (refuses_keyword hstart).bind
  | true =>
      obtain ⟨s', rfl⟩ := h hstart
      exact Refuses.of_takes_seq (takes_keyword rfl)
        (Refuses.of_takes_seq (hsp s') (hp s'))

theorem takes_space_equals (s : List Char) : Takes space [' '] ('=' :: s) :=
  takes_space ((front_cons _ '=' s).2 (by decide))

theorem refuses_forStatement {value : Parser Element}
    (h : NotKeyword "for" s) : Refuses (forStatement value) s :=
  Refuses.element (refuses_keyword_seq takes_space_equals
    (fun s => (refuses_variableName ((front_cons _ '=' s).2 rfl)).bind) h)

theorem refuses_ifStatement {value : Parser Element}
    (hvalue : ∀ s, Refuses value ('=' :: s)) (h : NotKeyword "if" s) :
    Refuses (ifStatement value) s :=
  Refuses.element (refuses_keyword_seq takes_space_equals
    (fun s => (hvalue s).bind) h)

theorem refuses_whileStatement {value : Parser Element}
    (hvalue : ∀ s, Refuses value ('=' :: s)) (h : NotKeyword "while" s) :
    Refuses (whileStatement value) s :=
  Refuses.tagged (refuses_keyword_seq takes_space_equals
    (fun s => (hvalue s).bind) h)

theorem refuses_controlStatement {value : Parser Element}
    (hvalue : ∀ s, Refuses value ('=' :: s))
    (h : ∀ word ∈ ["for", "if", "while"], NotKeyword word s) :
    Refuses (controlStatement value) s :=
  (refuses_forStatement (h _ (by simp))).orElse
    ((refuses_ifStatement hvalue (h _ (by simp))).orElse
      (refuses_whileStatement hvalue (h _ (by simp))))

theorem refuses_functionRule {execution : Parser Element}
    (h : NotKeyword "fn" s) : Refuses (functionRule execution) s :=
  Refuses.tagged (refuses_keyword_seq takes_space_equals
    (fun s => (refuses_functionName ((front_cons _ '=' s).2 rfl)).bind) h)

/-- A character that ends what stands in front of it. -/
def IsCloser (c : Char) : Prop := c = '=' ∨ c = ')' ∨ c = '}'

theorem IsCloser.isNameStart {c : Char} (h : IsCloser c) :
    isNameStart c = false := by
  rcases h with rfl | rfl | rfl <;> rfl

theorem IsCloser.ne {c : Char} (h : IsCloser c) :
    c ≠ '{' ∧ c ≠ '"' ∧ c ≠ '\'' := by
  rcases h with rfl | rfl | rfl <;> decide

theorem IsCloser.bareLength {c : Char} (h : IsCloser c) (s : List Char) :
    bareLength (c :: s) = 0 := by
  rcases h with rfl | rfl | rfl <;> rfl

theorem IsCloser.startsWithWord {c : Char} (h : IsCloser c) {word : String}
    (hword : word ∈ reserved) : startsWithWord [word] (c :: s) = false := by
  refine Bool.eq_false_iff.2 fun hstart => ?_
  obtain ⟨word', hmem, r, heq, -⟩ := startsWithWord_iff.1 hstart
  obtain rfl : word' = word := by simpa using hmem
  have hfront := isName_front (isName_of_mem_reserved word' hword) r
  rw [← heq, front_cons, h.isNameStart] at hfront
  simp at hfront

theorem refuses_value_closer {c : Char} (hc : IsCloser c) :
    Refuses (Rule.value.parse fuel) (c :: s) := by
  induction fuel generalizing c s with
  | zero => exact fun _ _ => rfl
  | succ fuel ih =>
      have hcontrol : Refuses (controlStatement (Rule.value.parse fuel))
          (c :: s) := by
        refine refuses_controlStatement (fun s => ih (.inl rfl)) ?_
        intro word hword
        refine notKeyword_of_false (hc.startsWithWord ?_)
        revert hword
        simp only [reserved, List.mem_cons]
        tauto
      have hbare : Refuses bareString (c :: s) :=
        Refuses.leaf (Refuses.take (by simp [hc.bareLength s]))
      exact (refuses_block (by simp [hc.ne])).orElse <|
        hcontrol.orElse <|
        (Refuses.leaf (refuses_char (by simp [hc.ne])).bind).orElse <|
        (Refuses.leaf (refuses_char (by simp [hc.ne])).bind).orElse hbare

theorem refuses_optionalValue {value : Parser Element} {tag : Tag}
    {word : String} (h : startsWithWord [word] s = false) :
    Refuses (optionalValue value tag word) s :=
  Refuses.tagged (refuses_keyword h).bind

/-- A name that is not assigned to. -/
theorem refuses_setStatement {value : Parser Element} {w b r : List Char}
    (hw : IsName w) (hend : NameEnd (b ++ r)) (hb : Takes space? b r)
    (hr : Front (fun c => c ≠ '=') r) :
    Refuses (setStatement value) (w ++ (b ++ r)) :=
  Refuses.tagged (Refuses.of_yields_bind (yields_variableName hw hend)
    fun _ _ => Refuses.of_takes_seq hb (refuses_char hr).bind)

/-- No statement starts with a closing brace. -/
theorem refuses_execution_closer {c : Char} (hc : IsCloser c) :
    Refuses (Rule.execution.parse fuel) (c :: s) := by
  cases fuel with
  | zero => exact fun _ _ => rfl
  | succ fuel =>
      have hcontrol : Refuses (controlStatement (Rule.value.parse fuel))
          (c :: s) := by
        refine refuses_controlStatement
          (fun s => refuses_value_closer (.inl rfl)) ?_
        intro word hword
        refine notKeyword_of_false (hc.startsWithWord ?_)
        revert hword
        simp only [reserved, List.mem_cons]
        tauto
      have hname : Front (fun d => isNameStart d = false) (c :: s) :=
        (front_cons _ c s).2 hc.isNameStart
      exact (refuses_block (by simp [hc.ne])).orElse <|
        hcontrol.orElse <|
        (Refuses.tagged (refuses_variableName hname).bind).orElse <|
        (refuses_optionalValue (hc.startsWithWord (by simp [reserved]))).orElse <|
        (refuses_optionalValue (hc.startsWithWord (by simp [reserved]))).orElse <|
        (Refuses.tagged (refuses_functionName hname).bind).orElse <|
        Refuses.tagged (refuses_functionName hname).bind

/-! ## Where conditionals end -/

/-- No conditional goes on here. -/
def StopsElse (r : List Char) : Prop :=
  ∀ fuel, Refuses (elseBranch (Rule.value.parse fuel)) r

theorem stopsElse_of_gap {w : List Char}
    (hw : ∀ c ∈ w, Text.isGap c = true) (hs : Front IsSolid s)
    (h : NotKeyword "else" s) : StopsElse (w ++ s) := by
  intro fuel
  refine Refuses.of_takes_seq (takes_blank hw hs) ?_
  refine refuses_keyword_seq (fun s => ?_)
    (fun s => refuses_value_closer (.inl rfl)) h
  exact takes_blank (by simp; rfl) ((front_cons _ '=' s).2 (by decide))

theorem stopsElse_of_front (hs : Front (fun c => IsSolid c ∧ c ≠ 'e') s) :
    StopsElse s :=
  stopsElse_of_gap (w := []) (by simp) (hs.mono fun _ h => h.1)
    (notKeyword_of_front rfl (hs.mono fun _ h => h.2))

end Refusals

end Grammar

end TextShell
