import TextShell.Text.Lines

/-!
# Excerpts of a source

The lines around a place in a source, numbered, with a mark at the line and a caret under the column.
-/

namespace TextShell.Excerpt

/-- The lines shown before and after the place. -/
def standardRadius : Int := 2

/-- A number with blanks before it. -/
def padLeft (width : Nat) (s : String) : String :=
  String.ofList (List.replicate (width - s.length) ' ') ++ s

/-- One line of the source; the one of the place has a caret line under it, if there is a column. -/
def row (width : Nat) (line : Int) (col : Option Int) (number : Nat) (text : String) : List String :=
  let isPlace := (number : Int) == line
  let shown := (if isPlace then ">" else " ") ++ " " ++ padLeft width (toString number) ++ " | " ++ text
  match isPlace, col with
  | true, some col =>
    [shown, "  " ++ padLeft width "" ++ " | " ++ padLeft (col - 1).toNat "" ++ "^"]
  | _, _ => [shown]

/-- The lines around a place; nothing if the source has no such line. -/
def around (source : String) (line : Int) (col : Option Int) (radius : Int := standardRadius) :
    String :=
  let lines := Text.lines source
  if line < 1 || lines.length < line then ""
  else
    let first := max 1 (line - radius)
    let last := min (lines.length : Int) (line + radius)
    let width := (toString last).length
    let rows := (lines.zipIdx 1).filter fun numbered => first ≤ numbered.2 && numbered.2 ≤ last
    "\n".intercalate (rows.flatMap fun numbered => row width line col numbered.2 numbered.1)

/-- The message about a source that cannot be read, with an excerpt where the place is known. -/
def parseError (message : String) (line col : Option Int) (source : String) : String :=
  match line, col with
  | some line, some col =>
    "ParseError: " ++ message ++ " (line " ++ toString line ++ ", col " ++ toString col ++ ")\n" ++
      around source line (some col)
  | _, _ => "ParseError: " ++ message

end TextShell.Excerpt
