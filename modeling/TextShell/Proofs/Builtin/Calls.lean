import TextShell.Builtin.Call
import TextShell.Proofs.Registry

/-!
# Calls of the built-in functions

A built-in function takes certain numbers of arguments, and the library declares it with
parameters that ask for no others.  Called with such a number it answers: with a value or
a fault, or with a source that is to be evaluated.

## Main results

* `Builtin.call_of_pure` — what the functions do that depend on their arguments alone.
* `Builtin.call_proper` — a built-in function answers a call that it takes.
* `Builtin.takes_of_fits` — an overload of the library accepts what its function takes.
-/

namespace TextShell

/-- The reply is one that a script can go on from, or a fault. -/
def Reply.Proper : Reply → Prop
  | .error _ => False
  | .foreign _ => False
  | _ => True

namespace Builtin

/-- The numbers of arguments that a function takes, unless it takes any. -/
def arities : Builtin → Option (List Nat)
  | .truth _ => some [0]
  | .ceil | .floor | .gron | .negation => some [1]
  | .both | .compare _ | .either | .like | .search => some [2]
  | .replace => some [3]
  | .get | .len | .random | .status => some [1, 2]
  | .append | .first | .last => some [2, 3]
  | .range => some [1, 2, 3, 4]
  | _ => none

/-- The function takes this number of arguments. -/
def takes (b : Builtin) (count : Nat) : Bool :=
  b.arities.all fun counts => counts.contains count

theorem reply_proper (answer : Operation.Answer) : (reply answer).Proper := by
  cases answer <;> trivial

/-- A function that depends on its arguments alone is called for its answer. -/
theorem call_of_pure {H : Type} {b : Builtin} {arguments : List Value}
    {answer : Operation.Answer} (h : b.pure? arguments = some answer)
    (registry : Registry H) (w : World) : b.call registry arguments w = (reply answer, w) := by
  unfold call
  split
  · cases h
  · cases h
  · cases h
  · cases h
  · cases h
  · cases h
  · cases h
  · rw [h]

theorem call_proper_of_pure {H : Type} {b : Builtin} {arguments : List Value}
    {answer : Operation.Answer} (h : b.pure? arguments = some answer)
    (registry : Registry H) (w : World) : (b.call registry arguments w).1.Proper := by
  rw [call_of_pure h]
  exact reply_proper answer

/-- The function answers the arguments with the value and changes nothing. -/
def Answers (b : Builtin) (arguments : List Value) (v : Value) : Prop :=
  ∀ (H : Type) (registry : Registry H) (w : World), b.call registry arguments w = (.value v, w)

theorem answers_of_pure {b : Builtin} {arguments : List Value} {v : Value}
    (h : b.pure? arguments = some (.ok v)) : b.Answers arguments v :=
  fun _ registry w => call_of_pure h registry w

theorem Answers.unique {b : Builtin} {arguments : List Value} {v w : Value}
    (hv : b.Answers arguments v) (hw : b.Answers arguments w) : v = w := by
  have hcall := (hv Builtin {} {}).symm.trans (hw Builtin {} {})
  simpa using hcall

theorem range_arguments {arguments : List Value} (h : range.takes arguments.length = true) :
    (∃ high, arguments = [high]) ∨ (∃ low high, arguments = [low, high]) ∨
      (∃ low high step, arguments = [low, high, step]) ∨
      ∃ low high step separator, arguments = [low, high, step, separator] := by
  simpa [takes, arities, List.length_eq_one_iff, List.length_eq_two, List.length_eq_three,
    List.length_eq_four] using h

/-- A built-in function answers a call that it takes. -/
theorem call_proper {H : Type} {b : Builtin} {arguments : List Value}
    (h : b.takes arguments.length = true) (registry : Registry H) (w : World) :
    (b.call registry arguments w).1.Proper := by
  -- Nothing but a number of arguments that no case of the function matches is
  -- answered with nothing, so the cases go by the numbers that are taken.
  cases b with
  | eval | listing _ _ | print _ => trivial
  | fold _ | isAlpha | isAlphanumeric | lower | put _ | upper =>
      exact call_proper_of_pure rfl registry w
  | truth holds =>
      obtain rfl : arguments = [] := by simpa [takes, arities] using h
      exact call_proper_of_pure rfl registry w
  | ceil | floor | gron | negation =>
      obtain ⟨a, rfl⟩ : ∃ a, arguments = [a] := by
        simpa [takes, arities, List.length_eq_one_iff] using h
      exact call_proper_of_pure rfl registry w
  | both | compare _ | either | like | search =>
      obtain ⟨a, b, rfl⟩ : ∃ a b, arguments = [a, b] := by
        simpa [takes, arities, List.length_eq_two] using h
      exact call_proper_of_pure rfl registry w
  | replace =>
      obtain ⟨a, b, c, rfl⟩ : ∃ a b c, arguments = [a, b, c] := by
        simpa [takes, arities, List.length_eq_three] using h
      exact call_proper_of_pure rfl registry w
  | get | random =>
      obtain ⟨a, rfl⟩ | ⟨a, b, rfl⟩ : (∃ a, arguments = [a]) ∨
          ∃ a b, arguments = [a, b] := by
        simpa [takes, arities, List.length_eq_one_iff, List.length_eq_two] using h
      · exact reply_proper _
      · exact reply_proper _
  | len | status =>
      obtain ⟨a, rfl⟩ | ⟨a, b, rfl⟩ : (∃ a, arguments = [a]) ∨
          ∃ a b, arguments = [a, b] := by
        simpa [takes, arities, List.length_eq_one_iff, List.length_eq_two] using h
      · exact call_proper_of_pure rfl registry w
      · exact call_proper_of_pure rfl registry w
  | append | first | last =>
      obtain ⟨a, b, rfl⟩ | ⟨a, b, c, rfl⟩ : (∃ a b, arguments = [a, b]) ∨
          ∃ a b c, arguments = [a, b, c] := by
        simpa [takes, arities, List.length_eq_two, List.length_eq_three] using h
      · exact call_proper_of_pure rfl registry w
      · exact call_proper_of_pure rfl registry w
  | range =>
      obtain ⟨_, rfl⟩ | ⟨_, _, rfl⟩ | ⟨_, _, _, rfl⟩ | ⟨_, _, _, _, rfl⟩ := range_arguments h
      · exact call_proper_of_pure rfl registry w
      · exact call_proper_of_pure rfl registry w
      · exact call_proper_of_pure rfl registry w
      · exact call_proper_of_pure rfl registry w

/-- The parameters ask for numbers of arguments that the function takes. -/
def fits (b : Builtin) (params : List Param) : Bool :=
  b.arities.all fun counts => !params.any Param.isVariadic && counts.contains params.length

theorem table_fits :
    table.all (fun (_, b, overloads) =>
      overloads.all fun params => b.fits (params.map Param.ofText)) = true := by
  decide +kernel

theorem takes_of_fits {H : Type} {b : Builtin} {o : Overload H} (h : b.fits o.params = true)
    {count : Nat} (haccepts : o.accepts count = true) : b.takes count = true := by
  unfold fits at h
  unfold takes
  cases harities : b.arities with
  | none => rfl
  | some counts =>
      rw [harities] at h
      obtain ⟨hfixed, hcount⟩ : o.isVariadic = false ∧
          counts.contains o.params.length = true := by
        simpa [Overload.isVariadic] using h
      obtain rfl : count = o.params.length := by
        obtain ⟨hleast, hmost⟩ := Overload.accepts_iff.1 haccepts
        simp only [Overload.minArgs, Overload.maxArgs?, hfixed, Bool.false_eq_true,
          if_false] at hleast hmost
        have hgreatest := hmost o.params.length rfl
        omega
      exact hcount

end Builtin

end TextShell
