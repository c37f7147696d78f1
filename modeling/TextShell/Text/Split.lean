import TextShell.Text.Blank

/-!
# Cutting text into pieces

Three ways to cut: at each occurrence of a separator, found from the left and without overlap; into
single characters; and into runs of characters that are not blank.
-/

namespace TextShell.Text

/-- What follows `start` in `s`, if `s` begins with it. -/
def dropStart? : List Char → List Char → Option (List Char)
  | [], s => some s
  | _ :: _, [] => none
  | p :: ps, c :: cs => if p = c then dropStart? ps cs else none

theorem dropStart?_length {start s rest : List Char} (h : dropStart? start s = some rest) :
    rest.length + start.length = s.length := by
  induction start generalizing s with
  | nil => simp_all [dropStart?]
  | cons p ps ih =>
    cases s with
    | nil => simp [dropStart?] at h
    | cons c cs =>
      simp only [dropStart?] at h
      split at h
      · have := ih h
        simp only [List.length_cons]
        omega
      · simp at h

/-- The text before the first occurrence of `sep` and the text after it. -/
def cut? (sep : List Char) : List Char → Option (List Char × List Char)
  | [] => (dropStart? sep []).map fun rest => ([], rest)
  | c :: cs =>
    match dropStart? sep (c :: cs) with
    | some rest => some ([], rest)
    | none => (cut? sep cs).map fun parts => (c :: parts.1, parts.2)

theorem cut?_length {sep s before after : List Char} (h : cut? sep s = some (before, after)) :
    before.length + sep.length + after.length = s.length := by
  induction s generalizing before after with
  | nil =>
    simp only [cut?, Option.map_eq_some_iff] at h
    obtain ⟨rest, hrest, heq⟩ := h
    have := dropStart?_length hrest
    simp_all
  | cons c cs ih =>
    simp only [cut?] at h
    split at h
    · next rest hrest =>
      have := dropStart?_length hrest
      simp_all
      omega
    · simp only [Option.map_eq_some_iff] at h
      obtain ⟨⟨b, a⟩, hcut, heq⟩ := h
      simp only [Prod.mk.injEq] at heq
      obtain ⟨rfl, rfl⟩ := heq
      have := ih hcut
      simp only [List.length_cons]
      omega

/-- The pieces of `s` between the occurrences of `sep`. An empty separator cuts nowhere. -/
def splitAt (sep s : List Char) : List (List Char) :=
  if _hsep : sep = [] then [s]
  else match _h : cut? sep s with
    | none => [s]
    | some (before, after) => before :: splitAt sep after
termination_by s.length
decreasing_by
  have := cut?_length _h
  have : 0 < sep.length := List.length_pos_iff.2 _hsep
  omega

/-- The maximal runs of characters that are not blank, where `run` holds the start of the first one,
read backwards. -/
def wordsFrom (run : List Char) : List Char → List (List Char)
  | [] => if run.isEmpty then [] else [run.reverse]
  | c :: rest =>
    if isBlank c then
      if run.isEmpty then wordsFrom [] rest else run.reverse :: wordsFrom [] rest
    else wordsFrom (c :: run) rest

/-- The maximal runs of characters that are not blank. -/
def words (s : List Char) : List (List Char) :=
  wordsFrom [] s

/-- Puts `new` for every occurrence of `old`; an empty `old` stands before each character and at the
end. -/
def replaceAll (old new s : List Char) : List Char :=
  if old = [] then new ++ s.flatMap fun c => c :: new
  else List.intercalate new (splitAt old s)

end TextShell.Text
