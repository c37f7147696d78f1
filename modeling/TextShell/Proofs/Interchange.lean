import TextShell.Interchange
import TextShell.Proofs.Document.Json

/-!
# Data in JSON

Data that is written in JSON is read back as it was, with each value of a script as the mapping of its
text and its status. `Exports` says what comes back without reference to how it is written; the reader
then never turns to YAML, and whatever the data is, unless a single word, number or text, the format
need not be named. The main statement is `json_round_trip`.
-/

namespace TextShell.Interchange

/-- The document `d` holds only data that JSON keeps and values of scripts, and `d'` is the same
document with the text and the status of each value in its place. -/
inductive Exports : Document → Document → Prop
  | null : Exports .null .null
  | bool (b : Bool) : Exports (.bool b) (.bool b)
  | integer {n : Int} (h : n.natAbs < 10 ^ Decimal.digitLimit) : Exports (.integer n) (.integer n)
  | text (s : String) : Exports (.text s) (.text s)
  | value {v : Value} (h : v.status.natAbs < 10 ^ Decimal.digitLimit) :
      Exports (.value v) (.record [("text", .text v.text), ("status", .integer v.status)])
  | list {items : List (Document × Document)} (h : ∀ item ∈ items, Exports item.1 item.2) :
      Exports (.list (items.map Prod.fst)) (.list (items.map Prod.snd))
  | record {fields : List (String × Document × Document)} (hkeys : (fields.map Prod.fst).Nodup)
      (h : ∀ field ∈ fields, Exports field.2.1 field.2.2) :
      Exports (.record (fields.map fun field => (field.1, field.2.1)))
        (.record (fields.map fun field => (field.1, field.2.2)))

/-- What comes back holds no value of a script. -/
theorem Exports.plain {d d' : Document} (h : Exports d d') : Json.Plain d' := by
  induction h with
  | null => exact .null
  | bool b => exact .bool b
  | integer h => exact .integer h
  | text s => exact .text s
  | value h =>
    refine .record (by simp) fun field hfield => ?_
    simp only [List.mem_cons, List.not_mem_nil, or_false] at hfield
    rcases hfield with rfl | rfl
    · exact .text _
    · exact .integer h
  | list h ih =>
    refine .list fun item hitem => ?_
    obtain ⟨source, hsource, rfl⟩ := List.mem_map.1 hitem
    exact ih source hsource
  | record hkeys h ih =>
    refine .record (by simpa [Function.comp_def] using hkeys) fun field hfield => ?_
    obtain ⟨source, hsource, rfl⟩ := List.mem_map.1 hfield
    exact ih source hsource

theorem expandItems_map {items : List (Document × Document)}
    (h : ∀ item ∈ items, item.1.expandValues = item.2) :
    Document.expandItems (items.map Prod.fst) = items.map Prod.snd := by
  induction items with
  | nil => rfl
  | cons item items ih =>
    simp only [List.map_cons, Document.expandItems]
    rw [h item (by simp), ih fun other hother => h other (by simp [hother])]

theorem expandEntries_map {fields : List (String × Document × Document)}
    (h : ∀ field ∈ fields, field.2.1.expandValues = field.2.2) :
    Document.expandEntries (fields.map fun field => (.text field.1, field.2.1)) =
      fields.map fun field => (.text field.1, field.2.2) := by
  induction fields with
  | nil => rfl
  | cons field fields ih =>
    simp only [List.map_cons, Document.expandEntries]
    rw [h field (by simp), ih fun other hother => h other (by simp [hother])]

/-- Before it is written, the document is made what comes back. -/
theorem Exports.expandValues_eq {d d' : Document} (h : Exports d d') : d.expandValues = d' := by
  induction h with
  | null | bool | integer | text | value => rfl
  | list h ih => rw [Document.expandValues, expandItems_map ih]
  | record hkeys h ih =>
    simp only [Document.record, List.map_map, Document.expandValues, Function.comp_def]
    rw [expandEntries_map ih]

/-- A document that is written between brackets or braces. -/
def Bracketed : Document → Bool
  | .list _ | .mapping _ | .value _ => true
  | _ => false

theorem Exports.front_write {d d' : Document} (h : Exports d d') (hd : Bracketed d = true)
    (pretty : Bool) :
    ∃ c rest, (Json.writeAt pretty 0 d').toList = c :: rest ∧ (c = '[' ∨ c = '\x7b') := by
  cases h with
  | null | bool | integer | text => simp [Bracketed] at hd
  | value | record =>
    rw [Document.record, Json.writeAt, Json.Layout.toList_enclose]
    exact ⟨_, _, rfl, .inr rfl⟩
  | list =>
    rw [Json.writeAt, Json.Layout.toList_enclose]
    exact ⟨_, _, rfl, .inl rfl⟩

/-- Text between brackets or braces is taken for JSON. -/
theorem detect?_of_bracket {text : String} {c : Char} {rest : List Char}
    (htext : text.toList = c :: rest) (hc : c = '[' ∨ c = '\x7b') :
    DataFormat.detect? none (some text) = some .json := by
  have hjson : DataFormat.occurs "json" (Text.lower "") = false := by decide
  have hyaml : DataFormat.occurs "yaml" (Text.lower "") = false := by decide
  have hblank : Text.isBlank c = false := by rcases hc with rfl | rfl <;> decide
  simp [DataFormat.detect?, hjson, hyaml, htext, Text.trimLeft, hblank, hc.symm]

theorem serialize_of_exports {d d' : Document} (h : Exports d d') (pretty : Bool) :
    serialize d (some "json") pretty = .ok (Json.writeAt pretty 0 d') := by
  have hname : DataFormat.ofName? (Text.lower "json") = some .json := by decide
  simp [serialize, hname, h.expandValues_eq, writeAs, h.plain.native.write_eq]

/-- Where JSON is named or guessed, the text is read without recourse to YAML. -/
theorem deserialize_of_exports {d d' : Document} (h : Exports d d') {pretty : Bool}
    {name : Option String}
    (hname : formatOf? name none (Json.writeAt pretty 0 d') = some .json) :
    deserialize (.text (Json.writeAt pretty 0 d')) none name = .ok d' := by
  have hread := Json.read?_writeAt h.plain pretty
  simp only [deserialize, Data.toText, bind, Except.bind, hname, readAs, hread]

/-- The mapping of a value's text and status is read as that value. -/
theorem toValue_ofValue (v : Value) : (Document.ofValue v).toValue = .ok v := by
  simp [Document.ofValue, Document.record, Document.toValue, Document.field?, Document.sameKey,
    Document.toText, Document.hasWideInteger, Document.toInteger]
  rfl

theorem loadValue_of_deserialize {data : Data} {v : Value}
    (h : deserialize data none (some "json") = .ok (.ofValue v)) :
    loadValue data none = .ok v := by
  have hname : ((if (none : Option String) == some "" then none else none).getD "json") = "json" := rfl
  simp only [loadValue, hname, h, bind, Except.bind]
  exact toValue_ofValue v

/-- Data that is written in JSON is read back, with the text and the status of each value in its
place. The format need not be named for what is written between brackets or braces. A value itself
comes back as it was. -/
theorem json_round_trip :
    (∀ d d' : Document, Exports d d' → ∀ pretty : Bool, ∃ text,
      serialize d (some "json") pretty = .ok text ∧
      deserialize (.text text) none (some "json") = .ok d' ∧
      (Bracketed d = true → deserialize (.text text) none none = .ok d')) ∧
    ∀ v : Value, v.status.natAbs < 10 ^ Decimal.digitLimit → ∃ text,
      dumpValue v (some "json") = .ok text ∧ loadValue (.text text) none = .ok v := by
  constructor
  · intro d d' h pretty
    refine ⟨_, serialize_of_exports h pretty, deserialize_of_exports h rfl, fun hd => ?_⟩
    obtain ⟨c, rest, htext, hc⟩ := h.front_write hd pretty
    exact deserialize_of_exports h (detect?_of_bracket htext hc)
  · intro v hv
    have h : Exports (.value v) (.ofValue v) := .value hv
    exact ⟨_, serialize_of_exports h false,
      loadValue_of_deserialize (deserialize_of_exports h rfl)⟩

/-- A value whose text and status need care, in the form that `form` gives it, beside a mapping that
holds a list. -/
def nestedSample (form : Value → Document) : Document :=
  .list [form ⟨"\"\\\n", -3⟩, .record [("", .null), ("a", .list [.integer 10, .bool false])]]

theorem json_round_trip_nested :
    Exports (nestedSample .value) (nestedSample .ofValue) ∧
      Bracketed (nestedSample .value) = true ∧
      (∃ text, serialize (nestedSample .value) (some "json") true = .ok text ∧
        deserialize (.text text) none (some "json") = .ok (nestedSample .ofValue) ∧
        deserialize (.text text) none none = .ok (nestedSample .ofValue)) ∧
      (-3 : Int).natAbs < 10 ^ Decimal.digitLimit ∧
      ∃ text, dumpValue ⟨"\"\\\n", -3⟩ (some "json") = .ok text ∧
        loadValue (.text text) none = .ok ⟨"\"\\\n", -3⟩ := by
  have hthree : (-3 : Int).natAbs < 10 ^ Decimal.digitLimit := by decide +kernel
  have hten : (10 : Int).natAbs < 10 ^ Decimal.digitLimit := by decide +kernel
  have hlist : Exports (.list [.integer 10, .bool false]) (.list [.integer 10, .bool false]) :=
    @Exports.list [(_, _), (_, _)] (by simpa using ⟨Exports.integer hten, Exports.bool false⟩)
  have hrecord : Exports (.record [("", .null), ("a", .list [.integer 10, .bool false])])
      (.record [("", .null), ("a", .list [.integer 10, .bool false])]) :=
    @Exports.record [("", _, _), ("a", _, _)] (by decide) (by simpa using ⟨Exports.null, hlist⟩)
  have hsample : Exports (nestedSample .value) (nestedSample .ofValue) :=
    @Exports.list [(_, _), (_, _)] (by simpa using ⟨Exports.value hthree, hrecord⟩)
  obtain ⟨text, hwrite, hread, hguess⟩ := json_round_trip.1 _ _ hsample true
  exact ⟨hsample, rfl, ⟨text, hwrite, hread, hguess rfl⟩, hthree, json_round_trip.2 _ hthree⟩

end TextShell.Interchange
