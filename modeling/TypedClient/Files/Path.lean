import TypedClient.Text.Blank

/-!
# Paths

A path is a text whose steps stand between slashes.  Empty steps and dots inside a path do not
count, so a path may be written in several ways; the functions here keep the spelling of what they
do not touch.
-/

namespace TypedClient.Files

open TypedClient.Text

/-- Whether the path starts at the root. -/
def isAbsolute (path : List Char) : Bool := path.head? == some '/'

/-- The path of `name` inside a directory; an absolute name replaces the directory. -/
def join (directory name : List Char) : List Char :=
  if isAbsolute name || directory.isEmpty then name
  else if directory.getLast? == some '/' then directory ++ name
  else directory ++ '/' :: name

theorem join_nil (name : List Char) : join [] name = name := by simp [join]

/-- The steps of a path, without those that lead nowhere. -/
def steps (path : List Char) : List (List Char) :=
  (splitAt (· == '/') path).filter fun s => !s.isEmpty && s != ['.']

/-- Removes slashes, and dots behind slashes, from the end of a reversed path, but never its first
character. -/
def dropTail : List Char → List Char
  | '/' :: c :: rest => dropTail (c :: rest)
  | '.' :: '/' :: rest => dropTail ('/' :: rest)
  | path => path

/-- The path without what leads nowhere at its end. -/
def trimPath (path : List Char) : List Char := (dropTail path.reverse).reverse

/-- The directory of a path; the root and the empty path have none. -/
def parent? (path : List Char) : Option (List Char) :=
  match dropTail path.reverse with
  | [] => none
  | ['/'] => none
  | reversed => some (dropTail (reversed.dropWhile (· != '/'))).reverse

/-- The last step of a path, unless it leads upwards. -/
def fileName? (path : List Char) : Option (List Char) :=
  match (steps path).getLast? with
  | some name => if name == ['.', '.'] then none else some name
  | none => none

/-- What stands behind the last dot of the file name; a leading dot does not count. -/
def extension? (path : List Char) : Option (List Char) :=
  match fileName? path with
  | none => none
  | some name =>
    let reversed := name.reverse
    match reversed.dropWhile (· != '.') with
    | [] => none
    | [_] => none
    | _ => some (reversed.takeWhile (· != '.')).reverse

end TypedClient.Files
