import TypedClient.Files.Path

/-!
# File trees

A file system as a run can see it: text files, directories and links.  An entry has a place, which
is the chain of names that leads to it from the root.  A file is apart from its entries, so that
several entries may be one file; a link is an entry that holds a path and stands for what that path
leads to.  Every operation fails with the cause that an operating system gives, and an operation
that fails changes nothing.
-/

namespace TypedClient.Files

open TypedClient.Text

/-- Why a file operation fails. -/
inductive FileError where
  | notFound
  | forbidden
  | alreadyThere
  | notDirectory
  | isDirectory
  | tooManyLinks
  /-- The name holds a character that no name can have. -/
  | badName
  deriving DecidableEq

/-- The message of a file error. -/
def FileError.message : FileError → String
  | notFound => "No such file or directory (os error 2)"
  | forbidden => "Permission denied (os error 13)"
  | alreadyThere => "File exists (os error 17)"
  | notDirectory => "Not a directory (os error 20)"
  | isDirectory => "Is a directory (os error 21)"
  | tooManyLinks => "Too many levels of symbolic links (os error 40)"
  | badName => "file name contained an unexpected NUL byte"

/-- The place of an entry: the names of the directories that lead to it from the root, and its own
name. -/
abbrev Place := List String

/-- What has a place: a name of the file with some number, a directory, or a link with the path that
it holds. -/
inductive Entry where
  | file (number : Nat)
  | directory
  | link (target : List Char)
  deriving DecidableEq

/-- The number of the file, if the entry is one. -/
def Entry.number? : Entry → Option Nat
  | file number => some number
  | _ => none

/-- A file tree. -/
structure FileTree where
  /-- The place of the current directory. -/
  current : Place
  entries : List (Place × Entry)
  texts : List (Nat × String)

/-- The place that a step from a directory leads to; no step leads above the root. -/
def child (place : Place) (step : List Char) : Place :=
  if step.isEmpty || step == ['.'] then place
  else if step == ['.', '.'] then place.dropLast
  else place ++ [String.ofList step]

namespace FileTree

/-- The tree that holds nothing but the current directory. -/
def emptyAt (current : Place) : FileTree := ⟨current, [], []⟩

/-- A tree that holds nothing but a directory to work in. -/
def empty : FileTree := emptyAt ["work"]

/-- Whether the place is the current directory or one above it. -/
def isBase (t : FileTree) (place : Place) : Bool := place.isPrefixOf t.current

/-- The entry at a place. -/
def at? (t : FileTree) (place : Place) : Option Entry :=
  if t.isBase place then some .directory else t.entries.lookup place

/-- The text of a file. -/
def text (t : FileTree) (number : Nat) : String := (t.texts.lookup number).getD ""

/-- A number that no file of the tree has. -/
def fresh (t : FileTree) : Nat :=
  (t.entries.filterMap fun p => p.2.number?).foldr (fun number n => max (number + 1) n) 0

/-- The tree with the entry at the place. -/
def set (t : FileTree) (place : Place) (e : Entry) : FileTree :=
  { t with entries := (place, e) :: t.entries.filter fun p => p.1 != place }

/-- The tree without the entry at the place. -/
def erase (t : FileTree) (place : Place) : FileTree :=
  { t with entries := t.entries.filter fun p => p.1 != place }

/-- The tree with the text in the file. -/
def setText (t : FileTree) (number : Nat) (text : String) : FileTree :=
  { t with texts := (number, text) :: t.texts.filter fun p => p.1 != number }

/-! ### Where paths lead -/

/-- Takes one step from a directory. -/
def follow (t : FileTree) (place : Place) (step : List Char) : Except FileError Place :=
  match t.at? place with
  | none => .error .notFound
  | some .directory => .ok (child place step)
  | some _ => .error .notDirectory

/-- Where a walk stops: at its end, or at a link in a directory with steps still to go. -/
inductive Stop where
  | place (place : Place)
  | link (directory : Place) (target : List Char) (rest : List (List Char))

/-- Takes steps, one after another, up to the first link. -/
def walk (t : FileTree) (place : Place) : List (List Char) → Except FileError Stop
  | [] => .ok (.place place)
  | step :: rest =>
    match t.follow place step with
    | .error e => .error e
    | .ok next =>
      match t.at? next with
      | some (.link target) => .ok (.link place target rest)
      | _ => t.walk next rest

/-- The place that a path starts from, in a directory. -/
def start (directory : Place) (path : List Char) : Place :=
  if isAbsolute path then [] else directory

/-- Takes steps, following at most `links` links. -/
def resolve (t : FileTree) : (links : Nat) → Place → List (List Char) → Except FileError Place
  | links, place, steps =>
    match t.walk place steps with
    | .error e => .error e
    | .ok (.place found) => .ok found
    | .ok (.link directory target rest) =>
      match links with
      | 0 => .error .tooManyLinks
      | links + 1 =>
        t.resolve links (start directory target) (splitAt (· == '/') target ++ rest)

/-- How many links the way along one path may have. -/
def maxLinks : Nat := 40

/-- Takes the steps of a path from where it starts. -/
def resolvePath (t : FileTree) (path : List Char) (steps : List (List Char)) :
    Except FileError Place :=
  if path.isEmpty then .error .notFound
  else if path.contains '\x00' then .error .badName
  else t.resolve maxLinks (start t.current path) steps

/-- The place that a path leads to.  All but the last step have to lead through directories, and a
slash at the end asks for a directory too. -/
def locate (t : FileTree) (path : List Char) : Except FileError Place :=
  t.resolvePath path (splitAt (· == '/') path)

/-- The place that a path names: if there is a link, the place of the link itself. -/
def locateName (t : FileTree) (path : List Char) : Except FileError Place :=
  match t.resolvePath path (splitAt (· == '/') path).dropLast with
  | .error e => .error e
  | .ok directory =>
    t.follow directory ((splitAt (· == '/') path).getLast (splitAt_ne_nil _ path))

/-- What a path leads to. -/
def find (t : FileTree) (path : List Char) : Except FileError (Place × Entry) :=
  match t.locate path with
  | .error e => .error e
  | .ok place =>
    match t.at? place with
    | some e => .ok (place, e)
    | none => .error .notFound

/-! ### Operations -/

/-- The text of the file that a path leads to. -/
def read (t : FileTree) (path : List Char) : Except FileError String :=
  match t.find path with
  | .ok (_, .file number) => .ok (t.text number)
  | .ok _ => .error .isDirectory
  | .error e => .error e

/-- Whether there is something at the path; an error if that cannot be told. -/
def exists? (t : FileTree) (path : List Char) : Except FileError Bool :=
  match t.find path with
  | .ok _ => .ok true
  | .error .notFound => .ok false
  | .error e => .error e

/-- Whether there is a directory at the path. -/
def hasDirectory (t : FileTree) (path : List Char) : Bool :=
  match t.find path with
  | .ok (_, .directory) => true
  | _ => false

/-- Writes a file, which is made if the path leads to nothing. -/
def write (t : FileTree) (path : List Char) (text : String) : Except FileError FileTree :=
  match t.locate path with
  | .error e => .error e
  | .ok place =>
    match t.at? place with
    | none => .ok ((t.set place (.file t.fresh)).setText t.fresh text)
    | some (.file number) => .ok (t.setText number text)
    | some _ => .error .isDirectory

/-- Removes the entry at a path, if there is one and it is no directory. -/
def remove (t : FileTree) (path : List Char) : FileTree :=
  match t.locateName path with
  | .error _ => t
  | .ok place => if t.at? place == some .directory then t else t.erase place

/-- Makes one directory. -/
def makeDirectory (t : FileTree) (path : List Char) : Except FileError FileTree :=
  match t.locateName (trimPath path) with
  | .error e => .error e
  | .ok place =>
    match t.at? place with
    | some _ => .error .alreadyThere
    | none => .ok (t.set place .directory)

/-- Makes a directory and those above it that are missing.  The path gets shorter with every
directory above it, so its length bounds the climb. -/
def makeDirectories (t : FileTree) (path : List Char) : Except FileError FileTree :=
  climb path.length t path
where
  /-- Climbs at most `levels` directories. -/
  climb : (levels : Nat) → FileTree → List Char → Except FileError FileTree
    | levels, t, path =>
      if path.isEmpty then .ok t
      else
        match t.makeDirectory path with
        | .ok made => .ok made
        | .error .notFound =>
          match levels, parent? path with
          | levels + 1, some above =>
            match climb levels t above with
            | .error e => .error e
            | .ok below =>
              match below.makeDirectory path with
              | .ok made => .ok made
              | .error e => if below.hasDirectory path then .ok below else .error e
          | _, _ => .error .notFound
        | .error e => if t.hasDirectory path then .ok t else .error e

/-! ### Changes -/

/-- The text at a place, if there is a file. -/
def textAt? (t : FileTree) (place : Place) : Option String :=
  ((t.at? place).bind Entry.number?).map t.text

/-- The places of files with their texts. -/
def files (t : FileTree) : List (Place × String) :=
  t.entries.filterMap fun (place, e) => e.number?.map fun number => (place, t.text number)

/-- The files that are new or hold another text than before. -/
def changedFiles (after before : FileTree) : List (Place × String) :=
  after.files.filter fun (place, text) => before.textAt? place != some text

/-- The directories that are new. -/
def newDirectories (after before : FileTree) : List Place :=
  (after.entries.filter fun (place, e) =>
    e == .directory && before.at? place != some .directory).map Prod.fst

/-- The path from the current directory to a place inside it. -/
def pathInside? (t : FileTree) (place : Place) : Option String :=
  if t.isBase place || !t.current.isPrefixOf place then none
  else some ("/".intercalate (place.drop t.current.length))

/-- The files inside the current directory that are new or hold another text than before, sorted by
path. -/
def changedSince (after before : FileTree) : List (String × String) :=
  let changed := (after.changedFiles before).filterMap fun (place, text) =>
    (after.pathInside? place).map fun path => (path, text)
  changed.mergeSort fun a b => a.1 ≤ b.1

/-- The tree that holds the given files and the directories above them. -/
def ofFiles (files : List (String × String)) : FileTree :=
  files.foldl (fun t (path, text) =>
    let parents := (parent? path.toList).getD []
    match t.makeDirectories parents with
    | .error _ => t
    | .ok made =>
      match made.write path.toList text with
      | .ok written => written
      | .error _ => t) empty

/-- Setting an entry shows at its place. -/
theorem at?_set (t : FileTree) (place : Place) (e : Entry) (h : t.isBase place = false) :
    (t.set place e).at? place = some e := by
  have hbase : (t.set place e).isBase place = false := h
  rw [at?, hbase, if_neg Bool.false_ne_true]
  simp [set]

end FileTree

end TypedClient.Files
