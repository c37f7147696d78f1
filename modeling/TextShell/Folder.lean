import TextShell.Fault

/-!
# Files in a folder

What comes of reading a file by its path, where all that there is is one folder of files. A path is
first brought to its normal form, in which nothing stands for staying where one is; then it is followed
name by name, so that the first name that leads nowhere decides how the reading fails.
-/

namespace TextShell

/-- What comes of reading a file. -/
inductive FileReading where
  | content (text : String)
  | missing
  | failed (fault : Fault)
deriving Repr, DecidableEq, Inhabited

/-- The content of files, by their paths from the folder. -/
abbrev Folder := List (String × String)

namespace Folder

/-- The names on a path, without those that stay where they are. -/
def names (path : String) : List String :=
  (((path.toList.splitOn '/').map String.ofList).filter fun name => name != "" && name != ".")

/-- What a path starts with if it does not start from the folder: one slash, or exactly two. -/
def rootOf (path : String) : String :=
  match (path.toList.takeWhile (· == '/')).length with
  | 0 => ""
  | 2 => "//"
  | _ => "/"

/-- The normal form of a path. -/
def normalPath (path : String) : String :=
  let normal := rootOf path ++ "/".intercalate (names path)
  if normal.isEmpty then "." else normal

/-- The longest name, in bytes. -/
def nameLimit : Nat := 255

/-- The length from which on a path is too long, in bytes. -/
def pathLimit : Nat := 4096

/-- What stands at a path. -/
inductive Place where
  | folder (path : List String)
  | file (content : String)
  /-- A folder outside, of which nothing is known. -/
  | outside
deriving Repr, DecidableEq, Inhabited

/-- A failure about a path. -/
def failure (kind : String) (number : Nat) (words path : String) : FileReading :=
  .failed (.reported kind ("[Errno " ++ toString number ++ "] " ++ words ++ ": " ++ Text.quote path))

/-- The path is too long, or a name on it. -/
def tooLong (path : String) : FileReading := failure "OSError" 36 "File name too long" path

/-- Some file lies further on along these names. -/
def leadsOn (files : Folder) (at_ : List String) : Bool :=
  files.any fun file =>
    let names := names file.1
    at_.length < names.length && names.take at_.length == at_

/-- Follows the names of a path from a place. -/
def follow (files : Folder) (path : String) : Place → List String → FileReading
  | .file content, [] => .content content
  | .folder _, [] | .outside, [] => failure "IsADirectoryError" 21 "Is a directory" path
  | .file _, _ :: _ => failure "NotADirectoryError" 20 "Not a directory" path
  | .outside, ".." :: rest => follow files path .outside rest
  | .folder at_, ".." :: rest =>
    follow files path (if at_.isEmpty then .outside else .folder at_.dropLast) rest
  | .outside, name :: _ => if nameLimit < name.utf8ByteSize then tooLong path else .missing
  | .folder at_, name :: rest =>
    if nameLimit < name.utf8ByteSize then tooLong path
    else
      let here := at_ ++ [name]
      match files.find? fun file => names file.1 == here with
      | some file => follow files path (.file file.2) rest
      | none => if leadsOn files here then follow files path (.folder here) rest else .missing

/-- Reads a file. -/
def read (files : Folder) (path : String) : FileReading :=
  let normal := normalPath path
  if path.toList.contains (Char.ofNat 0) then
    .failed (.reported "ValueError" "embedded null byte")
  else if pathLimit ≤ normal.utf8ByteSize then tooLong normal
  else follow files normal (if rootOf path == "" then .folder [] else .outside) (names path)

end Folder

end TextShell
