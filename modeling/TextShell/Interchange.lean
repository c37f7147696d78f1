import TextShell.Document.Convert
import TextShell.Document.Json.Reader
import TextShell.Document.Json.Writer
import TextShell.Document.Yaml.Reader
import TextShell.Document.Yaml.Writer
import TextShell.Text.Case
import TextShell.Text.Utf8

/-!
# Exchange of data

Documents to and from text, in a format that is named, or told by the content type, or guessed from
the text. Text that is not of its format is returned as it is; what is said to be JSON may also be
YAML.
-/

namespace TextShell

/-- Formats of documents. -/
inductive DataFormat where
  | json | yaml
deriving Repr, DecidableEq, Inhabited

namespace DataFormat

/-- The name of a format. -/
def name : DataFormat → String
  | .json => "json"
  | .yaml => "yaml"

/-- The format of a name. -/
def ofName? (name : String) : Option DataFormat :=
  if name == "json" then some .json else if name == "yaml" then some .yaml else none

/-- One text occurs in the other. -/
def occurs (part whole : String) : Bool := (Text.cut? part.toList whole.toList).isSome

/-- The format that a content type names, or that the start of the data shows. -/
def detect? (contentType data : Option String) : Option DataFormat :=
  let kind := Text.lower (contentType.getD "")
  if occurs "json" kind then some .json
  else if occurs "yaml" kind then some .yaml
  else match data.map fun s => (Text.trimLeft s.toList).head? with
    | some (some c) => if c == '\x7b' || c == '[' then some .json else none
    | _ => none

end DataFormat

namespace Interchange

/-! ## Bytes -/

/-- What follows a word, whatever its case, if the text begins with it. -/
def dropWord? : List Char → List Char → Option (List Char)
  | [], s => some s
  | _ :: _, [] => none
  | p :: ps, c :: cs =>
    if Text.foldChar c == p || (p == 's' && c.toNat == 0x17F) then dropWord? ps cs else none

/-- What follows the word, an equals sign and blanks around it, if the text begins with that. -/
def charsetHere? (s : List Char) : Option (List Char) := do
  let rest ← dropWord? "charset".toList s
  match Text.trimLeft rest with
  | '=' :: rest =>
    let name := (Text.trimLeft rest).takeWhile fun c => !Text.isBlank c && c != ';'
    if name.isEmpty then none else some name
  | _ => none

/-- The name of the charset that a content type gives first. -/
def charsetName? : List Char → Option (List Char)
  | [] => none
  | c :: rest => (charsetHere? (c :: rest)).orElse fun _ => charsetName? rest

/-- The text without a mark at its two ends. -/
def stripMark (mark : Char) (s : List Char) : List Char :=
  ((s.dropWhile (· == mark)).reverse.dropWhile (· == mark)).reverse

/-- The charset of a content type. Its name is a text without the character of number zero. -/
def charsetOf (contentType : Option String) : Except Fault Text.Charset :=
  match charsetName? ((contentType.getD "").toList) with
  | some name =>
    let name := stripMark '\'' (stripMark '"' name)
    if name.contains (Char.ofNat 0) then
      .error (.reported "ValueError" "embedded null character")
    else .ok (.ofName (String.ofList name))
  | none => .ok .utf8

/-- Data as it comes: text, or bytes, which a content type tells how to read. -/
inductive Data where
  | text (s : String)
  | bytes (octets : List Nat)
deriving Repr, DecidableEq, Inhabited

/-- The text of data. -/
def Data.toText (data : Data) (contentType : Option String) : Except Fault String :=
  match data with
  | .text s => .ok s
  | .bytes octets => return (← charsetOf contentType).decode octets

/-! ## Documents -/

/-- Reads YAML; a text that is none is itself. -/
def readYaml (text : String) : Except Fault Document :=
  match Yaml.read text with
  | .ok d => .ok d
  | .error .malformed => .ok (.text text)
  | .error (.failed fault) => .error fault

/-- Reads a text in a format. -/
def readAs (format : DataFormat) (text : String) : Except Fault Document :=
  match format with
  | .yaml => readYaml text
  | .json =>
    match Json.read? text with
    | some d => .ok d
    | none => readYaml text

/-- The format that a name asks for: an empty one asks for none, one that is not known for no reading
at all. -/
def formatOf? (name contentType : Option String) (text : String) : Option DataFormat :=
  match name with
  | none | some "" => DataFormat.detect? contentType (some text)
  | some name => DataFormat.ofName? name

/-- Reads data. -/
def deserialize (data : Data) (contentType name : Option String) : Except Fault Document := do
  let text ← data.toText contentType
  match formatOf? name contentType text with
  | some format => readAs format text
  | none => return .text text

/-- Writes a document in a format. -/
def writeAs (format : DataFormat) (pretty : Bool) (d : Document) : Except Fault String :=
  match format with
  | .json => Json.write pretty d
  | .yaml => if d.hasWideInteger then .error .integerTooWide else .ok (Yaml.write d)

/-- Writes a document in the format of this name, whose case does not count. -/
def serialize (d : Document) (name : Option String) (pretty : Bool) : Except Fault String :=
  match DataFormat.ofName? (Text.lower (name.getD "")) with
  | some format => writeAs format pretty d.expandValues
  | none => .error (.unsupportedFormat ((name.map Text.quote).getD "None"))

/-- Writes a value as a mapping of its text and its status. -/
def dumpValue (v : Value) (name : Option String) : Except Fault String :=
  serialize (.value v) name false

/-- Reads a value from such a mapping. -/
def loadValue (data : Data) (name : Option String) : Except Fault Value := do
  let name := if name == some "" then none else name
  match ← deserialize data none (some (name.getD "json")) with
  | .mapping entries => (Document.mapping entries).toValue
  | _ => .error .notAValueMapping

end Interchange

end TextShell
