import TextShell.Proofs.Program.Token

/-!
# How deep the grammar looks

The parser of a rule is given a bound on the depth of its trees.  Every
reference from one rule to another stands behind a character that is already
taken, so a bound above the number of characters that are left is never met:
two such bounds give the same parser, `parse_same`.
-/

namespace TextShell.Grammar

open TextShell.Parser

section Rules

variable {value execution : Parser Element}

/-! ## Every rule takes something -/

theorem shortens_block (hx : Shortens 0 execution) :
    Shortens 1 (block execution) :=
  Shortens.tagged <|
    (shortens_char '{').bind_left fun _ =>
    shortens_gap.bind_left fun _ =>
    ((hx.sepBy shortens_separator).orElse (Shortens.pure [])).bind_left
      fun _ =>
    shortens_gap.bind_left fun _ =>
    (shortens_char '}').weaken.bind_left fun _ => Shortens.pure _

theorem shortens_forStatement (hv : Shortens 0 value) :
    Shortens 1 (forStatement value) :=
  Shortens.element <|
    (shortens_keyword (by simp)).bind_left fun _ =>
    shortens_space.bind_left fun _ =>
    shortens_variableName.weaken.bind_left fun _ =>
    shortens_space.bind_left fun _ =>
    (shortens_keyword (by simp)).weaken.bind_left fun _ =>
    shortens_space.bind_left fun _ =>
    hv.bind_left fun _ =>
    Shortens.orElse
      (shortens_space.bind_left fun _ =>
        (shortens_keyword (by simp)).weaken.bind_left fun _ =>
        shortens_space.bind_left fun _ =>
        hv.bind_left fun _ =>
        shortens_blank.bind_left fun _ =>
        hv.bind_left fun _ => Shortens.pure _)
      (shortens_blank.bind_left fun _ =>
        hv.bind_left fun _ => Shortens.pure _)

/-- What makes a conditional go on: `else` and a value behind it. -/
def elseBranch (value : Parser Element) : Parser Element := do
  blank
  keyword "else"
  blank
  value

theorem shortens_elseBranch (hv : Shortens 0 value) :
    Shortens 0 (elseBranch value) :=
  shortens_blank.bind_left fun _ =>
    (shortens_keyword (by simp)).weaken.bind_left fun _ =>
    shortens_blank.bind_left fun _ => hv

/-- The rule of conditionals, with the part behind its first body named. -/
theorem ifStatement_eq (value : Parser Element) :
    ifStatement value = element (do
      keyword "if"
      space
      let condition ← value
      blank
      let body ← value
      (elseBranch value >>= fun falseBody =>
        pure (.ifElseStmt, [condition, body, falseBody])) <|>
        pure (.ifStmt, [condition, body])) := by
  simp only [ifStatement, elseBranch, bind_assoc]

theorem shortens_ifStatement (hv : Shortens 0 value) :
    Shortens 1 (ifStatement value) := by
  rw [ifStatement_eq]
  exact Shortens.element <|
    (shortens_keyword (by simp)).bind_left fun _ =>
    shortens_space.bind_left fun _ =>
    hv.bind_left fun _ =>
    shortens_blank.bind_left fun _ =>
    hv.bind_left fun _ =>
    ((shortens_elseBranch hv).bind_left fun _ => Shortens.pure _).orElse
      (Shortens.pure _)

theorem shortens_whileStatement (hv : Shortens 0 value) :
    Shortens 1 (whileStatement value) :=
  Shortens.tagged <|
    (shortens_keyword (by simp)).bind_left fun _ =>
    shortens_space.bind_left fun _ =>
    hv.bind_left fun _ =>
    shortens_blank.bind_left fun _ =>
    hv.bind_left fun _ => Shortens.pure _

theorem shortens_controlStatement (hv : Shortens 0 value) :
    Shortens 1 (controlStatement value) :=
  (shortens_forStatement hv).orElse <|
    (shortens_ifStatement hv).orElse (shortens_whileStatement hv)

theorem shortens_setStatement (hv : Shortens 0 value) :
    Shortens 1 (setStatement value) :=
  Shortens.tagged <|
    shortens_variableName.bind_left fun _ =>
    shortens_space?.bind_left fun _ =>
    (shortens_char '=').weaken.bind_left fun _ =>
    shortens_space?.bind_left fun _ =>
    hv.bind_left fun _ => Shortens.pure _

theorem shortens_optionalValue (hv : Shortens 0 value) (tag : Tag)
    {word : String} (hword : word.toList ≠ []) :
    Shortens 1 (optionalValue value tag word) :=
  Shortens.tagged <|
    (shortens_keyword hword).bind_left fun _ =>
    Shortens.orElse
      (shortens_space.bind_left fun _ =>
        hv.bind_left fun _ => Shortens.pure _)
      (Shortens.pure _)

/-- What stands between two arguments. -/
theorem shortens_comma :
    Shortens 0 (blank >>= fun _ => char ',' >>= fun _ => blank) :=
  shortens_blank.bind_left fun _ =>
    (shortens_char ',').weaken.bind_left fun _ => shortens_blank

theorem shortens_parenCall (hv : Shortens 0 value) :
    Shortens 1 (parenCall value) :=
  Shortens.tagged <|
    shortens_functionName.bind_left fun _ =>
    (shortens_char '(').weaken.bind_left fun _ =>
    shortens_blank.bind_left fun _ =>
    ((hv.sepBy shortens_comma).orElse (Shortens.pure [])).bind_left fun _ =>
    shortens_blank.bind_left fun _ =>
    (shortens_char ')').weaken.bind_left fun _ => Shortens.pure _

theorem shortens_shellCall (hv : Shortens 0 value) :
    Shortens 1 (shellCall value) :=
  Shortens.tagged <|
    shortens_functionName.bind_left fun _ =>
    Shortens.get.bind_left fun c =>
    (Shortens.many (shortens_space.bind_left fun _ => hv)
      c.rest.length).bind_left fun _ => Shortens.pure _

theorem shortens_openStatement (hv : Shortens 0 value) :
    Shortens 1 (openStatement value) :=
  (shortens_setStatement hv).orElse <|
    (shortens_optionalValue hv .returnStmt (by simp)).orElse <|
    (shortens_optionalValue hv .clearStmt (by simp)).orElse <|
    (shortens_parenCall hv).orElse (shortens_shellCall hv)

theorem shortens_executionRule (hv : Shortens 0 value)
    (hx : Shortens 0 execution) :
    Shortens 1 (executionRule value execution) :=
  (shortens_block hx).orElse <|
    (shortens_controlStatement hv).orElse (shortens_openStatement hv)

theorem shortens_valueRule (hv : Shortens 0 value)
    (hx : Shortens 0 execution) :
    Shortens 1 (valueRule value execution) :=
  (shortens_block hx).orElse <|
    (shortens_controlStatement hv).orElse <|
    shortens_dquoteString.orElse <|
    shortens_squoteString.orElse shortens_bareString

theorem shortens_functionRule (hx : Shortens 0 execution) :
    Shortens 1 (functionRule execution) :=
  Shortens.tagged <|
    (shortens_keyword (by simp)).bind_left fun _ =>
    shortens_space.bind_left fun _ =>
    shortens_functionName.weaken.bind_left fun _ =>
    shortens_blank.bind_left fun _ =>
    (shortens_char '(').weaken.bind_left fun _ =>
    shortens_blank.bind_left fun _ =>
    ((shortens_formalParam.sepBy shortens_comma).orElse
      (Shortens.pure [])).bind_left fun _ =>
    shortens_blank.bind_left fun _ =>
    (shortens_char ')').weaken.bind_left fun _ =>
    shortens_blank.bind_left fun _ =>
    (shortens_block hx).weaken.bind_left fun _ => Shortens.pure _

end Rules

/-- Whatever a rule accepts holds a character. -/
theorem shortens_parse (fuel : Nat) (rule : Rule) :
    Shortens 1 (rule.parse fuel) := by
  induction fuel generalizing rule with
  | zero =>
      intro at_ e stop h
      simp [Rule.parse] at h
  | succ fuel ih =>
      cases rule with
      | value => exact shortens_valueRule (ih _).weaken (ih _).weaken
      | execution => exact shortens_executionRule (ih _).weaken (ih _).weaken

/-! ## Bounds that are not met -/

section Rules

variable {value value' execution execution' : Parser Element} {k : Nat}

theorem same_block (hx : Same k execution execution')
    (sx : Shortens 0 execution) :
    Same (k + 1) (block execution) (block execution') :=
  Same.tagged <|
    (Same.refl _).bind (shortens_char '{') fun _ =>
    Same.bind_right shortens_gap fun _ =>
    ((hx.sepBy sx shortens_separator).orElse (Same.refl _)).bind_left

theorem same_forStatement (hv : Same k value value')
    (sv : Shortens 0 value) :
    Same (k + 1) (forStatement value) (forStatement value') :=
  Same.element <|
    (Same.refl _).bind (shortens_keyword (by simp)) fun _ =>
    Same.bind_right shortens_space fun _ =>
    Same.bind_right shortens_variableName.weaken fun _ =>
    Same.bind_right shortens_space fun _ =>
    Same.bind_right (shortens_keyword (by simp)).weaken fun _ =>
    Same.bind_right shortens_space fun _ =>
    hv.bind (d := 0) sv fun _ =>
    Same.orElse
      (Same.bind_right shortens_space fun _ =>
        Same.bind_right (shortens_keyword (by simp)).weaken fun _ =>
        Same.bind_right shortens_space fun _ =>
        hv.bind (d := 0) sv fun _ =>
        Same.bind_right shortens_blank fun _ => hv.bind_left)
      (Same.bind_right shortens_blank fun _ => hv.bind_left)

theorem same_elseBranch (hv : Same k value value') :
    Same k (elseBranch value) (elseBranch value') :=
  Same.bind_right shortens_blank fun _ =>
    Same.bind_right (shortens_keyword (by simp)).weaken fun _ =>
    Same.bind_right shortens_blank fun _ => hv

theorem same_ifStatement (hv : Same k value value') (sv : Shortens 0 value) :
    Same (k + 1) (ifStatement value) (ifStatement value') := by
  rw [ifStatement_eq, ifStatement_eq]
  exact Same.element <|
    (Same.refl _).bind (shortens_keyword (by simp)) fun _ =>
    Same.bind_right shortens_space fun _ =>
    hv.bind (d := 0) sv fun _ =>
    Same.bind_right shortens_blank fun _ =>
    hv.bind (d := 0) sv fun _ =>
    (same_elseBranch hv).bind_left.orElse (Same.refl _)

theorem same_whileStatement (hv : Same k value value')
    (sv : Shortens 0 value) :
    Same (k + 1) (whileStatement value) (whileStatement value') :=
  Same.tagged <|
    (Same.refl _).bind (shortens_keyword (by simp)) fun _ =>
    Same.bind_right shortens_space fun _ =>
    hv.bind (d := 0) sv fun _ =>
    Same.bind_right shortens_blank fun _ => hv.bind_left

theorem same_controlStatement (hv : Same k value value')
    (sv : Shortens 0 value) :
    Same (k + 1) (controlStatement value) (controlStatement value') :=
  (same_forStatement hv sv).orElse <|
    (same_ifStatement hv sv).orElse (same_whileStatement hv sv)

theorem same_setStatement (hv : Same k value value') :
    Same (k + 1) (setStatement value) (setStatement value') :=
  Same.tagged <|
    (Same.refl _).bind shortens_variableName fun _ =>
    Same.bind_right shortens_space? fun _ =>
    Same.bind_right (shortens_char '=').weaken fun _ =>
    Same.bind_right shortens_space? fun _ => hv.bind_left

theorem same_optionalValue (hv : Same k value value') (tag : Tag)
    {word : String} (hword : word.toList ≠ []) :
    Same (k + 1) (optionalValue value tag word)
      (optionalValue value' tag word) :=
  Same.tagged <|
    (Same.refl _).bind (shortens_keyword hword) fun _ =>
    Same.orElse (Same.bind_right shortens_space fun _ => hv.bind_left)
      (Same.refl _)

theorem same_parenCall (hv : Same k value value') (sv : Shortens 0 value) :
    Same (k + 1) (parenCall value) (parenCall value') :=
  Same.tagged <|
    (Same.refl _).bind shortens_functionName fun _ =>
    Same.bind_right (shortens_char '(').weaken fun _ =>
    Same.bind_right shortens_blank fun _ =>
    ((hv.sepBy sv shortens_comma).orElse (Same.refl _)).bind_left

theorem same_shellCall (hv : Same k value value') (sv : Shortens 0 value) :
    Same (k + 1) (shellCall value) (shellCall value') :=
  Same.tagged <|
    (Same.refl _).bind shortens_functionName fun _ =>
    Same.bind_right Shortens.get fun c =>
    ((Same.bind_right shortens_space fun _ => hv).many
      (shortens_space.bind_left fun _ => sv) c.rest.length).bind_left

theorem same_openStatement (hv : Same k value value')
    (sv : Shortens 0 value) :
    Same (k + 1) (openStatement value) (openStatement value') :=
  (same_setStatement hv).orElse <|
    (same_optionalValue hv .returnStmt (by simp)).orElse <|
    (same_optionalValue hv .clearStmt (by simp)).orElse <|
    (same_parenCall hv sv).orElse (same_shellCall hv sv)

theorem same_executionRule (hv : Same k value value')
    (sv : Shortens 0 value) (hx : Same k execution execution')
    (sx : Shortens 0 execution) :
    Same (k + 1) (executionRule value execution)
      (executionRule value' execution') :=
  (same_block hx sx).orElse <|
    (same_controlStatement hv sv).orElse (same_openStatement hv sv)

theorem same_valueRule (hv : Same k value value') (sv : Shortens 0 value)
    (hx : Same k execution execution') (sx : Shortens 0 execution) :
    Same (k + 1) (valueRule value execution)
      (valueRule value' execution') :=
  (same_block hx sx).orElse <|
    (same_controlStatement hv sv).orElse (Same.refl _)

end Rules

/-- Two bounds above the number of characters that are left give the same
parser. -/
theorem parse_same {k m n : Nat} (hm : k < m) (hn : k < n) (rule : Rule) :
    Same k (rule.parse m) (rule.parse n) := by
  induction k generalizing m n rule with
  | zero =>
      -- Nothing is left, so that no rule accepts anything.
      intro at_ hk
      have hnone : ∀ fuel, rule.parse fuel at_ = none := by
        intro fuel
        cases h : rule.parse fuel at_ with
        | none => rfl
        | some answer =>
            have := shortens_parse fuel rule at_ answer.1 answer.2 h
            omega
      rw [hnone, hnone]
  | succ k ih =>
      obtain ⟨m, rfl⟩ : ∃ j, m = j + 1 := ⟨m - 1, by omega⟩
      obtain ⟨n, rfl⟩ : ∃ j, n = j + 1 := ⟨n - 1, by omega⟩
      have hm' : k < m := by omega
      have hn' : k < n := by omega
      have hv := ih hm' hn' .value
      have hx := ih hm' hn' .execution
      have sv := (shortens_parse m .value).weaken
      have sx := (shortens_parse m .execution).weaken
      cases rule with
      | value => exact same_valueRule hv sv hx sx
      | execution => exact same_executionRule hv sv hx sx

end TextShell.Grammar
