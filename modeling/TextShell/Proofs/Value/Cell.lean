import TextShell.Document.Convert
import TextShell.Value.Cell

/-!
# What cells remember is never stale

A program holds any number of cells and changes them in any order: it makes new ones and
copies, appends one to another or to itself, sets texts and statuses, and asks for numbers,
which may fail.  `Cell.Current` says that a cell remembers nothing but what its text is read
as now.

The memories do not show.  `Cell.Alike` relates two stores of the same values in which
nothing is remembered wrongly, whatever is remembered; every operation has the same answer
on both and leaves them alike.  With one store on both sides this is the invariant, and with
copies on one side it says that cells do as new ones would.

## Main results

* `Alike.apply` — what one operation does.
* `Alike.run`, `Alike.observe_copy` — what a sequence of operations does.
* `memories_never_stale` — memories are empty or current after every sequence of operations,
  and numbers are what they would be if nothing were remembered.
-/

namespace TextShell

/-- What can be done with cells.  A cell goes by its number, in the order of their making. -/
inductive CellOperation where
  | new (value : Value)
  /-- A cell of the value that a document describes, if it does. -/
  | ofDocument (d : Document)
  | copy (source : Nat)
  | append (target other : Nat)
  | appendText (target : Nat) (text : String)
  /-- Another text, by assignment or as a replacement. -/
  | setText (target : Nat) (text : String)
  | setStatus (target : Nat) (status : Int)
  | asReal (target : Nat)
  | asInteger (target : Nat)

/-- What an operation on cells answers. -/
inductive CellAnswer where
  | done
  | failed (fault : Fault)
  | real (x : Option Float)
  | integer (n : Option Int)
  | noCell

/-- The answer of something that may fail. -/
def CellAnswer.of {α : Type} (answer : α → CellAnswer) : Except Fault α → CellAnswer
  | .ok a => answer a
  | .error fault => .failed fault

namespace Cell

/-! ## Operations -/

/-- Goes on with the cell of this number. -/
def withCell (cells : List Cell) (i : Nat) (next : Cell → CellAnswer × List Cell) :
    CellAnswer × List Cell :=
  match cells[i]? with
  | some c => next c
  | none => (.noCell, cells)

/-- Changes the cell of this number. -/
def change (cells : List Cell) (i : Nat) (f : Cell → CellAnswer × Cell) :
    CellAnswer × List Cell :=
  withCell cells i fun c => ((f c).1, cells.set i (f c).2)

/-- One operation.  One that fails makes no cell and changes none. -/
def apply (cells : List Cell) : CellOperation → CellAnswer × List Cell
  | .new value => (.done, cells ++ [new value])
  | .ofDocument d =>
    match d.toValue with
    | .ok value => (.done, cells ++ [new value])
    | .error fault => (.failed fault, cells)
  | .copy source => withCell cells source fun c => (.done, cells ++ [c.copy])
  | .append target other =>
    withCell cells other fun o => change cells target fun c => (.done, c.append o.value)
  | .appendText target text => change cells target fun c => (.done, c.appendText text)
  | .setText target text => change cells target fun c => (.done, c.setText text)
  | .setStatus target status => change cells target fun c => (.done, c.setStatus status)
  | .asReal target => change cells target fun c => (.of .real c.asReal.1, c.asReal.2)
  | .asInteger target => change cells target fun c => (.of .integer c.asInteger.1, c.asInteger.2)

/-- The cells after operations one after the other. -/
def run (cells : List Cell) (ops : List CellOperation) : List Cell :=
  ops.foldl (fun cells op => (apply cells op).2) cells

/-- The answers to operations one after the other, each with the values after it.  `prepare`
is done to every cell before every operation. -/
def observe (prepare : Cell → Cell) (cells : List Cell) :
    List CellOperation → List (CellAnswer × List Value)
  | [] => []
  | op :: rest =>
    let next := apply (cells.map prepare) op
    (next.1, next.2.map Cell.value) :: observe prepare next.2 rest

/-! ## Cells whose memories are current -/

/-- What is remembered is what the text is read as now. -/
structure Current (c : Cell) : Prop where
  real : ∀ x, c.real = some x → realOfText c.value.text = .ok x
  integer : ∀ n, c.integer = some n → integerOfText c.value.text = .ok n

theorem eq_ok_of_toOption {α : Type} {e : Except Fault α} {a : α} (h : e.toOption = some a) :
    e = .ok a := by
  cases e with
  | ok b => exact congrArg _ (Option.some.inj h)
  | error fault => cases h

theorem current_new (value : Value) : (new value).Current := by
  constructor <;> simp [new]

theorem current_setText (c : Cell) (text : String) : (c.setText text).Current := by
  constructor <;> simp [setText]

namespace Current

variable {c : Cell}

theorem setStatus (h : c.Current) (status : Int) : (c.setStatus status).Current :=
  ⟨h.real, h.integer⟩

/-- A real is read from the text as it is now.  If there is one it is remembered, and a
reading that fails leaves the memory empty. -/
theorem asReal_eq (h : c.Current) :
    c.asReal = (realOfText c.value.text,
      { c with real := (realOfText c.value.text).toOption }) := by
  obtain ⟨value, real, integer⟩ := c
  cases real with
  | some x =>
    have hread : realOfText value.text = .ok x := h.real x rfl
    simp only [hread]
    rfl
  | none =>
    simp only [Cell.asReal, Value.asReal]
    cases realOfText value.text <;> rfl

/-- The same of an integer. -/
theorem asInteger_eq (h : c.Current) :
    c.asInteger = (integerOfText c.value.text,
      { c with integer := (integerOfText c.value.text).toOption }) := by
  obtain ⟨value, real, integer⟩ := c
  cases integer with
  | some n =>
    have hread : integerOfText value.text = .ok n := h.integer n rfl
    simp only [hread]
    rfl
  | none =>
    simp only [Cell.asInteger, Value.asInteger]
    cases integerOfText value.text <;> rfl

theorem asReal (h : c.Current) : c.asReal.2.Current := by
  rw [h.asReal_eq]
  exact ⟨fun x hx => eq_ok_of_toOption hx, h.integer⟩

theorem asInteger (h : c.Current) : c.asInteger.2.Current := by
  rw [h.asInteger_eq]
  exact ⟨h.real, fun n hn => eq_ok_of_toOption hn⟩

end Current

/-! ## One cell -/

/-- The cells have the same value, and neither remembers anything wrongly. -/
structure Same (c d : Cell) : Prop where
  value : c.value = d.value
  left : c.Current
  right : d.Current

namespace Same

variable {c d : Cell}

theorem of_new {v w : Value} (h : v = w) : Same (new v) (new w) :=
  ⟨h, current_new v, current_new w⟩

theorem setText (h : Same c d) (text : String) : Same (c.setText text) (d.setText text) :=
  ⟨by simp [Cell.setText, h.value], current_setText c text, current_setText d text⟩

theorem setStatus (h : Same c d) (status : Int) : Same (c.setStatus status) (d.setStatus status) :=
  ⟨by simp [Cell.setStatus, h.value], h.left.setStatus status, h.right.setStatus status⟩

theorem append (h : Same c d) (other : Value) : Same (c.append other) (d.append other) := by
  rw [Cell.append, Cell.append, h.value]
  exact (h.setText _).setStatus _

theorem appendText (h : Same c d) (text : String) :
    Same (c.appendText text) (d.appendText text) := by
  rw [Cell.appendText, Cell.appendText, h.value]
  exact h.setText _

theorem asReal (h : Same c d) : c.asReal.1 = d.asReal.1 ∧ Same c.asReal.2 d.asReal.2 := by
  refine ⟨?_, ?_, h.left.asReal, h.right.asReal⟩
  · rw [h.left.asReal_eq, h.right.asReal_eq, h.value]
  · rw [h.left.asReal_eq, h.right.asReal_eq, h.value]

theorem asInteger (h : Same c d) :
    c.asInteger.1 = d.asInteger.1 ∧ Same c.asInteger.2 d.asInteger.2 := by
  refine ⟨?_, ?_, h.left.asInteger, h.right.asInteger⟩
  · rw [h.left.asInteger_eq, h.right.asInteger_eq, h.value]
  · rw [h.left.asInteger_eq, h.right.asInteger_eq, h.value]

end Same

/-! ## Stores of cells -/

theorem forall_current_concat {cells : List Cell} (h : ∀ c ∈ cells, c.Current) {c : Cell}
    (hc : c.Current) : ∀ e ∈ cells ++ [c], e.Current := by
  intro e he
  obtain he | he := List.mem_append.1 he
  · exact h e he
  · exact List.mem_singleton.1 he ▸ hc

theorem forall_current_set {cells : List Cell} (h : ∀ c ∈ cells, c.Current) (i : Nat) {c : Cell}
    (hc : c.Current) : ∀ e ∈ cells.set i c, e.Current := by
  intro e he
  obtain he | rfl := List.mem_or_eq_of_mem_set he
  · exact h e he
  · exact hc

/-- The stores hold the same values, and no cell of them remembers anything wrongly. -/
structure Alike (cells others : List Cell) : Prop where
  values : cells.map Cell.value = others.map Cell.value
  left : ∀ c ∈ cells, c.Current
  right : ∀ d ∈ others, d.Current

namespace Alike

variable {cells others : List Cell}

theorem of_current (h : ∀ c ∈ cells, c.Current) : Alike cells cells := ⟨rfl, h, h⟩

/-- Copies remember nothing. -/
theorem map_copy (h : Alike cells others) : Alike cells (others.map copy) := by
  refine ⟨?_, h.left, fun d hd => ?_⟩
  · rw [h.values, List.map_map]
    rfl
  · obtain ⟨c, -, rfl⟩ := List.mem_map.1 hd
    exact current_new c.value

theorem concat (h : Alike cells others) {c d : Cell} (hcd : Same c d) :
    Alike (cells ++ [c]) (others ++ [d]) := by
  refine ⟨?_, forall_current_concat h.left hcd.left, forall_current_concat h.right hcd.right⟩
  rw [List.map_append, List.map_append, h.values, List.map_singleton, hcd.value,
    List.map_singleton]

theorem set (h : Alike cells others) (i : Nat) {c d : Cell} (hcd : Same c d) :
    Alike (cells.set i c) (others.set i d) := by
  refine ⟨?_, forall_current_set h.left i hcd.left, forall_current_set h.right i hcd.right⟩
  rw [List.map_set, List.map_set, h.values, hcd.value]

theorem getElem? (h : Alike cells others) (i : Nat) :
    (cells[i]? = none ∧ others[i]? = none) ∨
      ∃ c d, cells[i]? = some c ∧ others[i]? = some d ∧ Same c d := by
  have hi : cells[i]?.map Cell.value = others[i]?.map Cell.value := by
    rw [← List.getElem?_map, h.values, List.getElem?_map]
  cases hc : cells[i]? with
  | none =>
    rw [hc] at hi
    exact .inl ⟨rfl, Option.map_eq_none_iff.1 hi.symm⟩
  | some c =>
    rw [hc] at hi
    obtain ⟨d, hd, hvalue⟩ := Option.map_eq_some_iff.1 hi.symm
    exact .inr ⟨c, d, rfl, hd, hvalue.symm, h.left c (List.mem_of_getElem? hc),
      h.right d (List.mem_of_getElem? hd)⟩

theorem withCell (h : Alike cells others) (i : Nat) {f g : Cell → CellAnswer × List Cell}
    (hfg : ∀ c d, Same c d → (f c).1 = (g d).1 ∧ Alike (f c).2 (g d).2) :
    (withCell cells i f).1 = (withCell others i g).1 ∧
      Alike (withCell cells i f).2 (withCell others i g).2 := by
  rw [Cell.withCell, Cell.withCell]
  rcases h.getElem? i with ⟨hc, hd⟩ | ⟨c, d, hc, hd, hcd⟩
  · rw [hc, hd]
    exact ⟨rfl, h⟩
  · rw [hc, hd]
    exact hfg c d hcd

theorem change (h : Alike cells others) (i : Nat) {f : Cell → CellAnswer × Cell}
    (hf : ∀ c d, Same c d → (f c).1 = (f d).1 ∧ Same (f c).2 (f d).2) :
    (change cells i f).1 = (change others i f).1 ∧
      Alike (change cells i f).2 (change others i f).2 :=
  h.withCell i fun c d hcd => ⟨(hf c d hcd).1, h.set i (hf c d hcd).2⟩

/-- **One operation** has the same answer on stores that are alike, and leaves them alike. -/
theorem apply (h : Alike cells others) (op : CellOperation) :
    (apply cells op).1 = (apply others op).1 ∧
      Alike (apply cells op).2 (apply others op).2 := by
  cases op with
  | new value => exact ⟨rfl, h.concat (.of_new rfl)⟩
  | ofDocument d =>
    rw [Cell.apply, Cell.apply]
    cases d.toValue with
    | ok value => exact ⟨rfl, h.concat (.of_new rfl)⟩
    | error fault => exact ⟨rfl, h⟩
  | copy source => exact h.withCell source fun c d hcd => ⟨rfl, h.concat (.of_new hcd.value)⟩
  | append target other =>
    -- Only the value of the other cell is looked at, also if it is the target.
    refine h.withCell other fun o p hop => ?_
    rw [hop.value]
    exact h.change target fun c d hcd => ⟨rfl, hcd.append p.value⟩
  | appendText target text => exact h.change target fun c d hcd => ⟨rfl, hcd.appendText text⟩
  | setText target text => exact h.change target fun c d hcd => ⟨rfl, hcd.setText text⟩
  | setStatus target status => exact h.change target fun c d hcd => ⟨rfl, hcd.setStatus status⟩
  | asReal target =>
    refine h.change target fun c d hcd => ⟨?_, hcd.asReal.2⟩
    rw [hcd.asReal.1]
  | asInteger target =>
    refine h.change target fun c d hcd => ⟨?_, hcd.asInteger.2⟩
    rw [hcd.asInteger.1]

/-- **A sequence of operations** keeps all memories current. -/
theorem run (h : Alike cells others) (ops : List CellOperation) :
    Alike (run cells ops) (run others ops) := by
  induction ops generalizing cells others with
  | nil => exact h
  | cons op rest ih => exact ih (h.apply op).2

/-- Nobody can tell whether the cells of a store are replaced by copies all the time. -/
theorem observe_copy (h : Alike cells others) (ops : List CellOperation) :
    observe id cells ops = observe copy others ops := by
  induction ops generalizing cells others with
  | nil => rfl
  | cons op rest ih =>
    obtain ⟨hanswer, hnext⟩ := h.map_copy.apply op
    rw [Cell.observe, Cell.observe, List.map_id, hanswer, hnext.values, ih hnext]

end Alike

/-- **What cells remember is never stale.**  After every sequence of operations, each memory
of each cell is empty or holds what the text is read as.  A number is what a new cell of the
same text would give; if there is one it is remembered from then on, and a reading that fails
leaves its memory empty.  All answers and values are those of cells that remember nothing. -/
theorem memories_never_stale (ops : List CellOperation) :
    (∀ c ∈ run [] ops, c.Current ∧
      (∀ status, c.asReal.1 = (new ⟨c.value.text, status⟩).asReal.1 ∧
        c.asInteger.1 = (new ⟨c.value.text, status⟩).asInteger.1) ∧
      c.asReal.2.real = c.asReal.1.toOption ∧
      c.asInteger.2.integer = c.asInteger.1.toOption) ∧
    observe id [] ops = observe copy [] ops := by
  have hempty : Alike [] [] := .of_current (by simp)
  refine ⟨fun c hc => ?_, hempty.observe_copy ops⟩
  have hcurrent : c.Current := (hempty.run ops).left c hc
  rw [hcurrent.asReal_eq, hcurrent.asInteger_eq]
  refine ⟨hcurrent, fun status => ?_, rfl, rfl⟩
  rw [(current_new _).asReal_eq, (current_new _).asInteger_eq]
  exact ⟨rfl, rfl⟩

/-- A cell that was read before and after its text grew, while a copy of it was changed. -/
theorem memories_never_stale_when_text_grows :
    let ops : List CellOperation := [.new ⟨"1", 0⟩, .asInteger 0, .copy 0, .appendText 0 "2",
      .asInteger 0, .append 1 0]
    let grown : Cell := { value := ⟨"12", 0⟩, integer := some (some 12) }
    grown ∈ run [] ops ∧ grown.Current ∧ grown.asInteger.1 = (new ⟨"12", 1⟩).asInteger.1 := by
  intro ops grown
  have hmem : grown ∈ run [] ops := List.mem_of_getElem? (i := 0) rfl
  obtain ⟨hcurrent, hfresh, -⟩ := (memories_never_stale ops).1 grown hmem
  exact ⟨hmem, hcurrent, (hfresh 1).2⟩

end Cell

end TextShell
