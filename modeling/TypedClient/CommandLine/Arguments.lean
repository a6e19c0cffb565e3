import TypedClient.Configuration

/-!
# Arguments

A command has options, each with the number of values it takes, and positional arguments.  Options
and arguments may stand in any order; two hyphens end the options.  The first mistake makes the
whole line unusable.
-/

namespace TypedClient.CommandLine

/-- How often an option may be given, and whether it has a value. -/
inductive Taking where
  /-- Once, without a value. -/
  | nothing
  /-- Once, with a value. -/
  | oneValue
  /-- Any number of times, each with a value. -/
  | manyValues
  deriving DecidableEq

/-- The options of a command by their names. -/
abbrev OptionTable := List (String × Taking)

/-- The arguments of a command, taken apart. -/
structure Given where
  /-- Options in the order in which they were given, each with its value. -/
  options : List (String × String)
  /-- Positional arguments in order. -/
  positional : List String

/-- Whether an option was given. -/
def Given.has (g : Given) (name : String) : Bool := (g.options.lookup name).isSome

/-- The value of an option, if it was given. -/
def Given.value? (g : Given) (name : String) : Option String := g.options.lookup name

/-- All values of an option. -/
def Given.values (g : Given) (name : String) : List String :=
  (g.options.filter fun o => o.1 == name).map Prod.snd

/-- What arguments come to. -/
inductive Reading (α : Type) where
  /-- They are unusable. -/
  | mistake
  /-- They ask for help. -/
  | help
  /-- They ask for the version. -/
  | version
  | done (value : α)

/-- Carries on with what was read. -/
def Reading.andThen {α β : Type} (r : Reading α) (f : α → Reading β) : Reading β :=
  match r with
  | mistake => .mistake
  | help => .help
  | version => .version
  | done a => f a

/-- What was read, if there is something. -/
def Reading.ofOption {α : Type} : Option α → Reading α
  | some a => done a
  | none => mistake

/-- Adds an option, unless it was given before and may not be given twice. -/
def Given.add (g : Given) (name : String) (taking : Taking) (value : String) : Reading Given :=
  if taking != .manyValues && g.has name then .mistake
  else .done { g with options := g.options ++ [(name, value)] }

/-- Whether an argument stands for itself, not for an option. -/
def isPlain (argument : String) : Bool := argument.toList.head? != some '-' || argument == "-"

/-- The name of a long option and its value, if one is attached. -/
def splitOption (cs : List Char) : String × Option String :=
  let name := String.ofList (cs.takeWhile (· != '='))
  match cs.dropWhile (· != '=') with
  | [] => (name, none)
  | _ :: value => (name, some (String.ofList value))

/-- Takes letters that stand for options.  `hasVersion` says whether there is one for the
version. -/
def takeLetters (hasVersion : Bool) (g : Given) : List Char → Reading Given
  | [] => .done g
  | 'v' :: rest => (g.add "verbose" .nothing "").andThen fun g => takeLetters hasVersion g rest
  | 'h' :: _ => .help
  | 'V' :: _ => if hasVersion then .version else .mistake
  | _ => .mistake

/-- Takes the arguments of a command apart. -/
def takeAll (table : OptionTable) (optionsEnded : Bool) (g : Given) : List String → Reading Given
  | [] => .done g
  | argument :: rest =>
    if optionsEnded || isPlain argument then
      takeAll table optionsEnded { g with positional := g.positional ++ [argument] } rest
    else if argument == "--" then takeAll table true g rest
    else
      match argument.toList with
      | '-' :: '-' :: cs =>
        let (name, attached) := splitOption cs
        if name == "help" then if attached.isSome then .mistake else .help
        else
          match table.lookup name, attached, rest with
          | none, _, _ => .mistake
          | some .nothing, some _, _ => .mistake
          | some .nothing, none, rest =>
            (g.add name .nothing "").andThen fun g => takeAll table false g rest
          | some taking, some value, rest =>
            (g.add name taking value).andThen fun g => takeAll table false g rest
          | some _, none, [] => .mistake
          | some taking, none, value :: rest =>
            if isPlain value then
              (g.add name taking value).andThen fun g => takeAll table false g rest
            else .mistake
      | cs => (takeLetters false g (cs.drop 1)).andThen fun g => takeAll table false g rest

theorem takeAll_nil (table : OptionTable) (optionsEnded : Bool) (g : Given) :
    takeAll table optionsEnded g [] = .done g := rfl

/-- Behind two hyphens every argument is positional. -/
theorem takeAll_ended (table : OptionTable) (g : Given) (arguments : List String) :
    takeAll table true g arguments =
      .done { g with positional := g.positional ++ arguments } := by
  induction arguments generalizing g with
  | nil => simp [takeAll]
  | cons a rest ih => simp [takeAll, ih]

end TypedClient.CommandLine
