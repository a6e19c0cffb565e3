import TypedClient.Formatting
import TypedClient.Shell.Script
import TypedClient.Text.Bytes
import TypedClient.Text.Hex

/-!
# Programs

The programs that every machine has: those that print, those that end with a certain exit code and
the shell.  They are run without any input.  A program that is not among them cannot be started.
-/

namespace TypedClient.Shell

open Files (FileError FileTree)
open Formatting (Executor Invocation ProgramResult)

/-- A program that prints and succeeds. -/
def printing (text : List Char) : ProgramResult := ⟨0, String.ofList text, ""⟩

/-- A program that prints nothing and ends with the exit code. -/
def ending (code : Int) : ProgramResult := ⟨code, "", ""⟩

/-- The exit code of a program that was killed. -/
def killed : Int := -1

/-! ## Printing -/

/-- The character that a letter behind a backslash stands for. -/
def letterEscape? (c : Char) : Option Char :=
  match c with
  | 'a' => some '\x07'
  | 'b' => some '\x08'
  | 'f' => some '\x0c'
  | 'n' => some '\n'
  | 'r' => some '\r'
  | 't' => some '\t'
  | 'v' => some '\x0b'
  | '\\' => some '\\'
  | '"' => some '"'
  | _ => none

/-- The value of digits in some base. -/
def digitsIn (base : Nat) (cs : List Char) : Nat :=
  cs.foldl (fun n c => n * base + (Text.hexValue? c).getD 0) 0

/-- The longest start of a text, of at most `most` characters, that holds digits of some base. -/
def leadingDigits (base most : Nat) (cs : List Char) : List Char :=
  (cs.take most).takeWhile fun c =>
    match Text.hexValue? c with
    | some d => d < base
    | none => false

/-- The bytes that a text with escapes stands for.  Numbers behind a backslash are bytes: up to
three octal digits, or up to two hexadecimal ones behind an `x`.  `skip` counts the characters that
belong to the last escape. -/
def unescapeFrom : (skip : Nat) → List Char → List UInt8
  | _, [] => []
  | skip + 1, _ :: cs => unescapeFrom skip cs
  | 0, '\\' :: c :: cs =>
    let octal := leadingDigits 8 3 (c :: cs)
    let hex := leadingDigits 16 2 cs
    match letterEscape? c with
    | some d => String.utf8EncodeChar d ++ unescapeFrom 0 cs
    | none =>
      if !octal.isEmpty then
        UInt8.ofNat (digitsIn 8 octal) :: unescapeFrom (octal.length - 1) cs
      else if c == 'x' && !hex.isEmpty then
        UInt8.ofNat (digitsIn 16 hex) :: unescapeFrom hex.length cs
      else String.utf8EncodeChar '\\' ++ String.utf8EncodeChar c ++ unescapeFrom 0 cs
  | 0, c :: cs => String.utf8EncodeChar c ++ unescapeFrom 0 cs

/-- Replaces escapes in a text. -/
def unescape (cs : List Char) : List Char := Text.ofBytes (unescapeFrom 0 cs)

/-- Words with spaces between them. -/
def spaced (words : List String) : List Char := Text.joinWith [' '] (words.map String.toList)

/-- Prints words.  `escapes` says whether escapes are replaced unless that is asked for. -/
def echo (escapes : Bool) (line : Bool) : List String → List Char
  | "-n" :: rest => echo escapes false rest
  | "-e" :: rest => echo true line rest
  | words =>
    let text := spaced words
    (if escapes then unescape text else text) ++ if line then ['\n'] else []

/-- Fills the slots of a format with words, one after another; missing words are empty. -/
def fill : List Char → List String → List Char
  | [], _ => []
  | '%' :: '%' :: cs, words => '%' :: fill cs words
  | '%' :: 's' :: cs, words => (words.headD "").toList ++ fill cs (words.drop 1)
  | '%' :: 'd' :: cs, words => (words.headD "0").toList ++ fill cs (words.drop 1)
  | c :: cs, words => c :: fill cs words

/-- The account of a file that cannot be shown. -/
def showFailure (name : String) (e : FileError) : String :=
  let reason :=
    match e with
    | .isDirectory => "Is a directory"
    | .notDirectory => "Not a directory"
    | .forbidden => "Permission denied"
    | .tooManyLinks => "Too many levels of symbolic links"
    | _ => "No such file or directory"
  "cat: " ++ name ++ ": " ++ reason ++ "\n"

/-- Shows files one after another, starting with what was shown before. -/
def showFiles (t : FileTree) (directory : List Char) (r : ProgramResult) :
    List String → ProgramResult
  | [] => r
  | name :: rest =>
    let shown :=
      if name == "-" then r
      else
        match t.read (Files.join directory name.toList) with
        | .ok text => { r with output := r.output ++ text }
        | .error e => { r with exitCode := 1, errors := r.errors ++ showFailure name e }
    showFiles t directory shown rest

/-- The names of what lies in a directory, in order, each on a line.  Hidden entries are left
out. -/
def listDirectory (t : FileTree) (directory : List Char) : List Char :=
  match t.locate (Files.join directory ['.']) with
  | .error _ => []
  | .ok place =>
    let below := t.entries.filterMap fun (p, _) =>
      if p.dropLast == place then p.getLast? else none
    let shown := (below.filter fun name => name.toList.head? != some '.').mergeSort
    shown.flatMap fun name => name.toList ++ ['\n']

/-! ## Running -/

/-- The name of a program without the directories that programs are kept in. -/
def bareName (program : String) : String :=
  let cs := program.toList
  let rest := (Text.dropStart? "/usr/bin/".toList cs).or (Text.dropStart? "/bin/".toList cs)
  String.ofList (rest.getD cs)

/-- Runs a program that is no shell; `none` if there is no such program.  A shell replaces escapes
in what it prints. -/
def runPlain? (inShell : Bool) (t : FileTree) (directory : List Char) (program : String)
    (arguments : List String) : Option ProgramResult :=
  match program with
  | "true" => some (ending 0)
  | "false" => some (ending 1)
  | "sleep" => some (ending 0)
  | "echo" => some (printing (echo inShell true arguments))
  | "printf" =>
    match arguments with
    | [] => none
    | form :: words => some (printing (fill (unescape form.toList) words))
  | "ls" => if arguments.isEmpty then some (printing (listDirectory t directory)) else none
  | "cat" => some (showFiles t directory (ending 0) arguments)
  | _ => none

/-- Moves what a step has printed to where it is wanted. -/
def Redirection.apply (r : Redirection) (p : ProgramResult) : ProgramResult :=
  match r with
  | none => p
  | toErrors => ⟨p.exitCode, "", p.output ++ p.errors⟩
  | toOutput => ⟨p.exitCode, p.output ++ p.errors, ""⟩

/-- Runs one step behind others: everything printed so far, and whether the script ends here. -/
def runStep (t : FileTree) (directory : List Char) (before : ProgramResult) (s : Step) :
    ProgramResult × Bool :=
  let status := toString before.exitCode
  let words := s.words.map fun w => if w == "$?" then status else w
  match words with
  | [] => (before, false)
  | ["exit"] => (before, true)
  | ["exit", code] => ({ before with exitCode := (code.toNat?.getD 2) % 256 }, true)
  | "kill" :: rest =>
    if rest.contains "$$" then ({ before with exitCode := killed }, true)
    else ({ before with exitCode := 1 }, false)
  | program :: arguments =>
    let done := s.redirection.apply <|
      (runPlain? true t directory (bareName program) arguments).getD
        ⟨127, "", "sh: 1: " ++ program ++ ": not found\n"⟩
    (⟨done.exitCode, before.output ++ done.output, before.errors ++ done.errors⟩, false)

/-- Runs the steps of a script. -/
def runSteps (t : FileTree) (directory : List Char) (before : ProgramResult) :
    List Step → ProgramResult
  | [] => before
  | s :: rest =>
    if s.condition.holds before.exitCode then
      match runStep t directory before s with
      | (after, true) => after
      | (after, false) => runSteps t directory after rest
    else runSteps t directory before rest

/-- Runs a script. -/
def runScript (t : FileTree) (directory : List Char) (text : String) : ProgramResult :=
  match script? text with
  | some steps => runSteps t directory (ending 0) steps
  | none => ⟨2, "", "sh: 1: Syntax error: Unterminated quoted string\n"⟩

/-- Whether a program is a shell. -/
def isShell (program : String) : Bool := ["sh", "bash", "dash"].contains program

/-- Why a program that is not known cannot be started: a path may lead to a text file or a
directory. -/
def startFailure (t : FileTree) (call : Invocation) : FileError :=
  let path := call.program.toList
  if path.contains '/' then
    match t.find (Files.join call.directory path) with
    | .ok _ => .forbidden
    | .error e => e
  else .notFound

/-- Runs the programs that every machine has. -/
def programs : Executor := fun _ call t =>
  let name := bareName call.program
  let result :=
    match isShell name, call.arguments with
    | true, "-c" :: text :: _ => some (runScript t call.directory text)
    | true, [] => some (ending 0)
    | _, arguments => runPlain? false t call.directory name arguments
  (t, match result with
    | some r => .ok r
    | none => .error (.notStarted call.program (startFailure t call)))

/-- Programs only print; they leave the files alone. -/
theorem programs_tree (earlier : List Invocation) (call : Invocation) (t : FileTree) :
    (programs earlier call t).1 = t := rfl

end TypedClient.Shell
