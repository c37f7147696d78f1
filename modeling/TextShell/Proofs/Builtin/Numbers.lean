import TextShell.Proofs.Builtin.Calls
import TextShell.Proofs.Registry.Merge
import TextShell.Proofs.Value.Number

/-!
# When the numeric functions have no answer

A function that needs numbers asks its arguments for them, and an argument that is no
number makes it fail with a value.  But an argument can have the form of a number and
still be refused by the conversion, and then there is no value at all: a fault goes up to
the caller.  What is asked for is said here as data (`Demand`), apart from the functions,
and each of the functions is shown to have an answer exactly if nothing it asks for is
refused (`Settles`).

Most of them ask for everything before they look at any of it.  The functions that fold
stop at the first argument that is no number, so what is behind it is not refused
(`Blocked`).

## Main results

* `Settles.read` — asking for a number, and what becomes of the answer.
* `Builtin.numeric_functions_settle` — the numeric functions of the library.
-/

namespace TextShell

open Decimal

/-- Something that a function asks for: a number in a text, or the numeral of a number. -/
inductive Demand where
  | real (text : String)
  | integer (text : String)
  | written (n : Int)

namespace Demand

/-- The text does not have the form of a number. -/
def Missing : Demand → Prop
  | real text => isRealForm text.toList = false
  | integer text => isIntegerForm text.toList = false
  | written _ => False

/-- There is the form of a number, but the conversion refuses it: a real with a foreign
`i`, or an integer of too many digits. -/
def Refused : Demand → Prop
  | real text => isRealForm text.toList = true ∧ ∃ c ∈ text.toList, IsForeignI c
  | integer text => isIntegerForm text.toList = true ∧ digitLimit < digitCount text.toList
  | written n => 10 ^ digitLimit ≤ n.natAbs

/-- One of the demands is refused, and none in front of it is missing. -/
def Blocked : List Demand → Prop
  | [] => False
  | d :: ds => d.Refused ∨ ¬ d.Missing ∧ Blocked ds

/-- How asking ends: there is no number, or a refusal, or a number. -/
inductive Reads {α : Type} (d : Demand) : Except Fault (Option α) → Prop
  | missing (hmissing : d.Missing) (hread : ¬ d.Refused) : Reads d (.ok none)
  | refused {fault : Fault} (hpresent : ¬ d.Missing) (hrefused : d.Refused)
      (hkind : fault.kind = "ValueError") : Reads d (.error fault)
  | found (a : α) (hpresent : ¬ d.Missing) (hread : ¬ d.Refused) : Reads d (.ok (some a))

theorem reads_real (v : Value) : (real v.text).Reads v.asReal := by
  rw [Value.asReal]
  cases hform : isRealForm v.text.toList with
  | false =>
      rw [realOfText_of_not_form hform]
      exact .missing hform (by simp [Refused, hform])
  | true =>
      have hpresent : ¬ (real v.text).Missing := by simp [Missing, hform]
      rcases realOfText_of_form hform with ⟨⟨x, hx⟩, hplain⟩ | ⟨hfault, hforeign⟩
      · rw [hx]
        exact .found x hpresent fun hrefused =>
          hrefused.2.elim fun c hc => hplain c hc.1 hc.2
      · rw [hfault]
        exact .refused hpresent ⟨hform, hforeign⟩ rfl

theorem reads_integer (v : Value) : (integer v.text).Reads v.asInteger := by
  rw [Value.asInteger]
  cases hform : isIntegerForm v.text.toList with
  | false =>
      rw [integerOfText_of_not_form hform]
      exact .missing hform (by simp [Refused, hform])
  | true =>
      have hpresent : ¬ (integer v.text).Missing := by simp [Missing, hform]
      obtain ⟨n, hn⟩ := isIntegerForm_iff.1 hform
      rw [integerOfText_of_numeral hn]
      by_cases hlong : digitLimit < digitCount v.text.toList
      · rw [if_pos hlong]
        exact .refused hpresent ⟨hform, hlong⟩ rfl
      · rw [if_neg hlong]
        exact .found n hpresent fun hrefused => hlong hrefused.2

theorem Reads.answers_iff {α : Type} {d : Demand} {reading : Except Fault (Option α)}
    (h : d.Reads reading) : (∃ number, reading = .ok number) ↔ ¬ d.Refused := by
  cases h with
  | missing hmissing hread => simpa using hread
  | refused hpresent hrefused hkind => simpa using hrefused
  | found a hpresent hread => simpa using hread

end Demand

/-- The answer is a fault exactly if `raises`; otherwise it is a value, which is falsy if
something is missing. -/
structure Settles (answer : Operation.Answer) (raises missing : Prop) : Prop where
  value : ¬ raises → ∃ v, answer = .ok v ∧ (missing → v.isTruthy = false)
  fault : raises → ∃ fault : Fault, fault.kind = "ValueError" ∧ answer = .error fault

namespace Settles

theorem ok {v : Value} {missing : Prop} (h : missing → v.isTruthy = false) :
    Settles (.ok v) False missing :=
  ⟨fun _ => ⟨v, rfl, h⟩, False.elim⟩

/-- The function asks for one more number before it goes on. -/
theorem read {α : Type} {d : Demand} {reading : Except Fault (Option α)} (h : d.Reads reading)
    {next : Option α → Operation.Answer} {raises missing : Prop}
    (hnone : Settles (next none) raises True)
    (hsome : ∀ a, Settles (next (some a)) raises missing) :
    Settles (reading >>= next) (d.Refused ∨ raises) (d.Missing ∨ missing) := by
  cases h with
  | missing hmissing hread =>
      refine ⟨fun hquiet => ?_, fun hraises => hnone.fault (hraises.resolve_left hread)⟩
      obtain ⟨v, hv, hfalsy⟩ := hnone.value fun hraises => hquiet (.inr hraises)
      exact ⟨v, hv, fun _ => hfalsy trivial⟩
  | @refused fault hpresent hrefused hkind =>
      exact ⟨fun hquiet => absurd (.inl hrefused) hquiet, fun _ => ⟨fault, hkind, rfl⟩⟩
  | found a hpresent hread =>
      refine ⟨fun hquiet => ?_, fun hraises => (hsome a).fault (hraises.resolve_left hread)⟩
      obtain ⟨v, hv, hfalsy⟩ := (hsome a).value fun hraises => hquiet (.inr hraises)
      exact ⟨v, hv, fun hmissing => hfalsy (hmissing.resolve_left hpresent)⟩

theorem congr {answer : Operation.Answer} {raises raises' missing missing' : Prop}
    (h : Settles answer raises missing) (hraises : raises' ↔ raises)
    (hmissing : missing' → missing) : Settles answer raises' missing' := by
  refine ⟨fun hquiet => ?_, fun hfault => h.fault (hraises.1 hfault)⟩
  obtain ⟨v, hv, hfalsy⟩ := h.value (mt hraises.2 hquiet)
  exact ⟨v, hv, fun hmiss => hfalsy (hmissing hmiss)⟩

/-- Something is missing already, but the function still asks for one more number. -/
theorem readOn {α : Type} {d : Demand} {reading : Except Fault (Option α)} (h : d.Reads reading)
    {next : Option α → Operation.Answer} {raises : Prop}
    (hnext : ∀ number, Settles (next number) raises True) :
    Settles (reading >>= next) (d.Refused ∨ raises) True :=
  (read h (hnext none) fun a => hnext (some a)).congr Iff.rfl fun _ => .inr trivial

end Settles

/-! ## The operations -/

namespace Operation

theorem settles_compareNumbers (op : Comparison) (a b : Value) :
    Settles (compareNumbers op a b)
      ((Demand.real a.text).Refused ∨ (Demand.real b.text).Refused ∨ False)
      ((Demand.real a.text).Missing ∨ (Demand.real b.text).Missing ∨ False) := by
  refine .read (Demand.reads_real a) ?_ fun x => ?_
  · exact .readOn (Demand.reads_real b) fun _ => .ok fun _ => rfl
  · exact .read (Demand.reads_real b) (.ok fun _ => rfl) fun _ => .ok False.elim

theorem settles_rounded (round : Float → Float) (v : Value) :
    Settles (rounded round v) ((Demand.real v.text).Refused ∨ False)
      ((Demand.real v.text).Missing ∨ False) :=
  .read (Demand.reads_real v) (.ok fun _ => rfl) fun _ => .ok False.elim

theorem settles_withStatus (v status : Value) :
    Settles (withStatus v status) ((Demand.integer status.text).Refused ∨ False)
      ((Demand.integer status.text).Missing ∨ False) :=
  .read (Demand.reads_integer status) (.ok fun _ => rfl) fun _ => .ok False.elim

theorem settles_statusOf (v : Value) :
    Settles (statusOf v) (Demand.written v.status).Refused (Demand.written v.status).Missing := by
  rw [statusOf, integerText?_eq]
  by_cases h : v.status.natAbs < 10 ^ digitLimit
  · rw [if_pos h]
    exact ⟨fun _ => ⟨_, rfl, False.elim⟩, fun hrefused => absurd h (Nat.not_lt.2 hrefused)⟩
  · rw [if_neg h]
    exact ⟨absurd (Nat.not_lt.1 h), fun _ => ⟨_, rfl, rfl⟩⟩

theorem settles_range (low high step : Value) (separator : String) :
    Settles (range low high step separator)
      ((Demand.integer low.text).Refused ∨ (Demand.integer high.text).Refused ∨
        (Demand.integer step.text).Refused ∨ False)
      ((Demand.integer low.text).Missing ∨ (Demand.integer high.text).Missing ∨
        (Demand.integer step.text).Missing ∨ False) := by
  have hfalsy : ∀ {missing : Prop}, Settles (.ok .falsy) False missing := .ok fun _ => rfl
  refine .read (Demand.reads_integer low) ?_ fun a =>
    .read (Demand.reads_integer high) ?_ fun b => ?_
  · exact .readOn (Demand.reads_integer high) fun _ =>
      .readOn (Demand.reads_integer step) fun _ => hfalsy
  · exact .readOn (Demand.reads_integer step) fun _ => hfalsy
  · refine .read (Demand.reads_integer step) hfalsy fun d => ?_
    by_cases hd : 0 < d
    · simp only [if_pos hd]
      exact .ok False.elim
    · simp only [if_neg hd]
      exact hfalsy

theorem settles_part (select : Nat → List String → List String) (list count : Value)
    (separator : Option Value) :
    Settles (part select list count separator) ((Demand.integer count.text).Refused ∨ False)
      ((Demand.integer count.text).Missing ∨ False) := by
  refine .read (Demand.reads_integer count) (.ok fun _ => rfl) fun n => ?_
  dsimp only
  split
  · exact .ok False.elim
  · exact .ok fun _ => rfl

/-- The numbers of the arguments are asked for one after the other, up to the first that is
missing. -/
theorem settles_numbers (vs : List Value) {next : Option (List Float) → Answer}
    (hnone : ∀ missing, Settles (next none) False missing)
    (hsome : ∀ xs, Settles (next (some xs)) False False) :
    Settles (numbers vs >>= next) (Demand.Blocked (vs.map fun v => .real v.text))
      (∃ v ∈ vs, (Demand.real v.text).Missing) := by
  induction vs generalizing next with
  | nil => exact (hsome []).congr Iff.rfl (by simp)
  | cons v vs ih =>
      have hread := Demand.reads_real v
      have hstep : numbers (v :: vs) >>= next = v.asReal >>= fun number =>
          number.elim (next none) fun x => numbers vs >>= fun rest =>
            next (rest.map (x :: ·)) := by
        rw [numbers, bind_assoc]
        refine bind_congr fun number => ?_
        cases number with
        | none => rfl
        | some x => simp
      rw [hstep]
      generalize v.asReal = reading at hread
      cases hread with
      | missing hmissing hread =>
          exact (hnone _).congr (by simp [Demand.Blocked, hmissing, hread]) id
      | @refused fault hpresent hrefused hkind =>
          exact ⟨fun hquiet => absurd (.inl hrefused) hquiet, fun _ => ⟨fault, hkind, rfl⟩⟩
      | found x hpresent hread =>
          have hrest := @ih (fun rest => next (rest.map (x :: ·))) hnone fun xs => hsome (x :: xs)
          refine hrest.congr ?_ ?_
          · simp [Demand.Blocked, hpresent, hread]
          · simp [hpresent]

theorem settles_fold (op : Arithmetic) (arguments : List Value) :
    Settles (fold op arguments) (Demand.Blocked (arguments.map fun v => .real v.text))
      (∃ v ∈ arguments, (Demand.real v.text).Missing) := by
  refine settles_numbers arguments (fun _ => .ok fun _ => rfl) fun xs => ?_
  cases xs with
  | nil => exact .ok False.elim
  | cons x xs => exact .ok False.elim

end Operation

/-! ## The functions -/

namespace Builtin

/-- The functions that compute with numbers. -/
def isNumeric : Builtin → Bool
  | .compare _ | .fold _ | .floor | .ceil | .status | .range | .first | .last => true
  | _ => false

/-- What a function asks for. -/
def demands : Builtin → List Value → List Demand
  | .compare _, arguments | .fold _, arguments | .floor, arguments | .ceil, arguments =>
    arguments.map fun v => .real v.text
  | .status, [v] => [.written v.status]
  | .status, [_, code] => [.integer code.text]
  | .range, [high] => [.integer high.text]
  | .range, [low, high] => [.integer low.text, .integer high.text]
  | .range, low :: high :: step :: _ =>
    [.integer low.text, .integer high.text, .integer step.text]
  | .first, _ :: count :: _ | .last, _ :: count :: _ => [.integer count.text]
  | _, _ => []

/-- The function is refused something that it asks for.  Those that fold do not ask for
anything behind what is missing. -/
def Raises : Builtin → List Value → Prop
  | .fold op, arguments => Demand.Blocked (demands (.fold op) arguments)
  | b, arguments => ∃ d ∈ b.demands arguments, d.Refused

/-- The numerals that stand for arguments that are left out are read. -/
theorem reads_default {text : String} (h : text ∈ ["0", "1"]) :
    ¬ (Demand.integer text).Refused ∧ ¬ (Demand.integer text).Missing := by
  rcases (by simpa using h : text = "0" ∨ text = "1") with rfl | rfl <;>
    simp only [Demand.Refused, Demand.Missing] <;> decide

/-- A numeric function settles what it asks for. -/
theorem settles_pure {b : Builtin} (hb : b.isNumeric = true) {arguments : List Value}
    (h : b.takes arguments.length = true) :
    ∃ answer, b.pure? arguments = some answer ∧
      Settles answer (b.Raises arguments) (∃ d ∈ b.demands arguments, d.Missing) := by
  cases b with
  | compare op =>
      obtain ⟨x, y, rfl⟩ : ∃ x y, arguments = [x, y] := by
        simpa [takes, arities, List.length_eq_two] using h
      refine ⟨_, rfl, (Operation.settles_compareNumbers op x y).congr ?_ ?_⟩ <;>
        simp [Raises, demands]
  | fold op =>
      refine ⟨_, rfl, (Operation.settles_fold op arguments).congr Iff.rfl ?_⟩
      simp [demands]
  | floor | ceil =>
      obtain ⟨v, rfl⟩ : ∃ v, arguments = [v] := by
        simpa [takes, arities, List.length_eq_one_iff] using h
      refine ⟨_, rfl, (Operation.settles_rounded _ v).congr ?_ ?_⟩ <;> simp [Raises, demands]
  | status =>
      obtain ⟨v, rfl⟩ | ⟨v, code, rfl⟩ : (∃ v, arguments = [v]) ∨
          ∃ v code, arguments = [v, code] := by
        simpa [takes, arities, List.length_eq_one_iff, List.length_eq_two] using h
      · refine ⟨_, rfl, (Operation.settles_statusOf v).congr ?_ ?_⟩ <;> simp [Raises, demands]
      · refine ⟨_, rfl, (Operation.settles_withStatus v code).congr ?_ ?_⟩ <;>
          simp [Raises, demands]
  | range =>
      have hzero := @reads_default "0" (by simp)
      have hone := @reads_default "1" (by simp)
      obtain ⟨high, rfl⟩ | ⟨low, high, rfl⟩ | ⟨low, high, step, rfl⟩ |
        ⟨low, high, step, separator, rfl⟩ := range_arguments h
      · refine ⟨_, rfl, (Operation.settles_range ⟨"0", 0⟩ high ⟨"1", 0⟩ " ").congr ?_ ?_⟩ <;>
          simp [Raises, demands, hzero, hone]
      · refine ⟨_, rfl, (Operation.settles_range low high ⟨"1", 0⟩ " ").congr ?_ ?_⟩ <;>
          simp [Raises, demands, hone]
      · refine ⟨_, rfl, (Operation.settles_range low high step " ").congr ?_ ?_⟩ <;>
          simp [Raises, demands]
      · refine ⟨_, rfl, (Operation.settles_range low high step separator.text).congr ?_ ?_⟩ <;>
          simp [Raises, demands]
  | first | last =>
      obtain ⟨list, count, rfl⟩ | ⟨list, count, separator, rfl⟩ :
          (∃ list count, arguments = [list, count]) ∨
          ∃ list count separator, arguments = [list, count, separator] := by
        simpa [takes, arities, List.length_eq_two, List.length_eq_three] using h
      · refine ⟨_, rfl, (Operation.settles_part _ list count none).congr ?_ ?_⟩ <;>
          simp [Raises, demands]
      · refine ⟨_, rfl, (Operation.settles_part _ list count (some separator)).congr ?_ ?_⟩ <;>
          simp [Raises, demands]
  | _ => simp [isNumeric] at hb

/-- The names of the functions that compute with numbers. -/
def numericNames : List String :=
  ["eq", "neq", "lt", "gt", "leq", "geq", "add", "sub", "mul", "div", "max", "min", "floor",
    "ceil", "status", "range", "first", "last"]

theorem table_numeric :
    table.all (fun (name, b, _) => !numericNames.contains name || b.isNumeric) = true := by
  decide +kernel

/-- Under the name of a numeric function there is a numeric function, for numbers of
arguments that it takes. -/
def NamesNumeric (name : String) (o : Overload Builtin) : Prop :=
  name ∈ numericNames → ∃ b : Builtin, o.body = .host b ∧ b.isNumeric = true ∧
    ∀ count : Nat, o.accepts count = true → b.takes count = true

theorem namesNumeric_library :
    ∀ entry ∈ (library id : Registry Builtin).functions, ∀ o ∈ entry.2, NamesNumeric entry.1 o := by
  refine Registry.registerAll_induction
    (P := fun r => ∀ entry ∈ r.functions, ∀ o ∈ entry.2, NamesNumeric entry.1 o) ?_ ?_
  · intro entry hmem r next message hr hnext
    refine Registry.forall_register hr ?_ hnext
    obtain ⟨⟨name, b, overloads⟩, hrow, hmem⟩ := List.mem_flatMap.1 hmem
    obtain ⟨params, hparams, rfl⟩ := List.mem_map.1 hmem
    intro hname
    have hnumeric := List.all_eq_true.1 table_numeric _ hrow
    have hfits := List.all_eq_true.1 (List.all_eq_true.1 table_fits _ hrow) params hparams
    exact ⟨b, rfl, by simpa [hname] using hnumeric, fun _ haccepts => takes_of_fits hfits haccepts⟩
  · intro entry hmem
    cases hmem

/-- When the numeric functions answer.  A function that is called under one of their names,
with a number of arguments that it takes, answers with a value exactly if nothing that it
asks for is refused, and then with a falsy one if something is not a number; otherwise
there is a fault.  A text is refused as a real if it is a word for infinity with a foreign
`i` in it, and as an integer if it has too many digits, and in no other case. -/
theorem numeric_functions_settle {name : String} (hname : name ∈ numericNames)
    {arguments : List Value} {o : Overload Builtin}
    (hresolve : (library id : Registry Builtin).resolve name arguments.length = .ok o) :
    (∃ b : Builtin, o.body = .host b ∧
      (¬ b.Raises arguments → ∃ v, b.Answers arguments v ∧
        ((∃ d ∈ b.demands arguments, d.Missing) → v.isTruthy = false)) ∧
      (b.Raises arguments → ∃ fault : Fault, fault.kind = "ValueError" ∧
        ∀ (H : Type) (registry : Registry H) (w : World),
          b.call registry arguments w = (.fault fault, w))) ∧
    ∀ v : Value, ((∃ x, v.asReal = .ok x) ↔ ¬ (Demand.real v.text).Refused) ∧
      ((∃ n, v.asInteger = .ok n) ↔ ¬ (Demand.integer v.text).Refused) := by
  refine ⟨?_, fun v => ⟨(Demand.reads_real v).answers_iff, (Demand.reads_integer v).answers_iff⟩⟩
  obtain ⟨os, hentry, ho, haccepts⟩ := Registry.exists_overloads_of_resolve hresolve
  obtain ⟨b, hbody, hb, htakes⟩ := namesNumeric_library (name, os) hentry o ho hname
  obtain ⟨answer, hanswer, hsettles⟩ := settles_pure hb (htakes _ haccepts)
  refine ⟨b, hbody, fun hquiet => ?_, fun hraises => ?_⟩
  · obtain ⟨v, rfl, hfalsy⟩ := hsettles.value hquiet
    exact ⟨v, answers_of_pure hanswer, hfalsy⟩
  · obtain ⟨fault, hkind, rfl⟩ := hsettles.fault hraises
    exact ⟨fault, hkind, fun _ registry w => call_of_pure hanswer registry w⟩

/-- A text that is no number keeps `add` from what would be refused behind it. -/
theorem numeric_functions_settle_behind :
    "add" ∈ numericNames ∧
      ∃ (o : Overload Builtin) (v : Value),
        (library id : Registry Builtin).resolve "add" 3 = .ok o ∧
        o.body = .host (.fold .add) ∧
        (Builtin.fold .add).Answers [⟨"1", 0⟩, ⟨"x", 0⟩, ⟨"ınf", 0⟩] v ∧ v.isTruthy = false := by
  have hname : "add" ∈ numericNames := by decide
  have hhost : (((library id : Registry Builtin).resolve "add" 3).toOption.bind fun o =>
      match o.body with
      | .host b => some b
      | .script _ => none) = some (.fold .add) := by
    decide +kernel
  obtain ⟨o, hresolve, hbody⟩ : ∃ o, (library id : Registry Builtin).resolve "add" 3 = .ok o ∧
      o.body = .host (.fold .add) := by
    generalize (library id : Registry Builtin).resolve "add" 3 = found at hhost
    cases found with
    | error e => cases hhost
    | ok o =>
        cases hbody : o.body with
        | host b => exact ⟨o, rfl, by simpa [Except.toOption, hbody] using hhost⟩
        | script tree => simp [Except.toOption, hbody] at hhost
  obtain ⟨⟨b, hb, hvalue, -⟩, -⟩ :=
    @numeric_functions_settle "add" hname [⟨"1", 0⟩, ⟨"x", 0⟩, ⟨"ınf", 0⟩] o hresolve
  obtain rfl : Builtin.fold .add = b := Body.host.inj (hbody.symm.trans hb)
  have hmissing : (Demand.real "x").Missing := by
    unfold Demand.Missing
    decide
  have hquiet : ¬ (Builtin.fold .add).Raises [⟨"1", 0⟩, ⟨"x", 0⟩, ⟨"ınf", 0⟩] := by
    simp [Raises, demands, Demand.Blocked, hmissing, Demand.Refused, IsForeignI]
  obtain ⟨v, hanswers, hfalsy⟩ := hvalue hquiet
  exact ⟨hname, o, v, hresolve, hbody, hanswers, hfalsy ⟨.real "x", by simp [demands], hmissing⟩⟩

theorem asInteger_replicate {n : Nat} (hn : digitLimit < n) :
    (⟨String.ofList (List.replicate n '1'), 0⟩ : Value).asInteger = .error (.numeralTooLong n) := by
  have hdigits : IsDigits (List.replicate n '1') := by
    refine ⟨fun hnil => ?_, fun c hc => ?_⟩
    · have hzero := congrArg List.length hnil
      rw [List.length_replicate, List.length_nil] at hzero
      omega
    · rw [List.eq_of_mem_replicate hc]
      decide
  have hread := @integerOfText_of_numeral (String.ofList (List.replicate n '1')) _
    (by rw [String.toList_ofList]; exact .plain hdigits)
  rwa [String.toList_ofList, hdigits.digitCount_eq, List.length_replicate, if_pos hn] at hread

/-- Two calls that have no answer: a word for infinity without the dot of its `i`, and an
integer of `4301` digits. -/
theorem numeric_functions_without_answer :
    ("eq", Builtin.compare .eq, [["a", "b"]]) ∈ table ∧
      (∀ (H : Type) (registry : Registry H) (w : World),
        (Builtin.compare .eq).call registry [⟨"ınf", 0⟩, ⟨"1", 0⟩] w =
          (.fault (.notReal "ınf"), w)) ∧
      ("first", Builtin.first, [["arr", "n", "sep"], ["arr", "n"]]) ∈ table ∧
      ∀ (H : Type) (registry : Registry H) (w : World),
        Builtin.first.call registry [⟨"a b", 0⟩, ⟨String.ofList (List.replicate 4301 '1'), 0⟩] w =
          (.fault (.numeralTooLong 4301), w) := by
  have hreal : (⟨"ınf", 0⟩ : Value).asReal = .error (.notReal "ınf") := by
    rcases realOfText_of_form (by decide : isRealForm "ınf".toList = true) with
      ⟨-, hplain⟩ | ⟨hfault, -⟩
    · exact absurd (.inl rfl) (hplain 'ı' (by simp))
    · exact hfault
  have hinteger := asInteger_replicate (show digitLimit < 4301 by decide)
  refine ⟨by decide, fun _ _ w => ?_, by decide, fun _ _ w => ?_⟩
  · exact congrArg (fun reading => (reply (reading >>= _), w)) hreal
  · exact congrArg (fun reading => (reply (reading >>= _), w)) hinteger

end Builtin

end TextShell
