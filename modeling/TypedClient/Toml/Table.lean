/-!
# TOML tables

A table is opened by a header, by a longer header or dotted key that leads through it, or in one
line with its entries.  How it was opened decides what may still be added to it.
-/

namespace TypedClient.Toml

/-- How a table was opened. -/
inductive Opening where
  /-- By its own header. -/
  | header
  /-- By a header that leads through it. -/
  | implied
  /-- By a dotted key that leads through it. -/
  | dotted
  /-- In one line. -/
  | inLine
  deriving DecidableEq

/-- A TOML value.  Numbers and dates have no place in settings and are not among them. -/
inductive Value where
  | string (text : String)
  | bool (value : Bool)
  | array (items : List Value)
  | table (opening : Opening) (entries : List (String × Value))
  /-- Tables under a repeated header, the last one first. -/
  | tables (all : List (List (String × Value)))

/-- The entries of a table. -/
abbrev Entries := List (String × Value)

/-- Sets the value of a key that is there. -/
def replace (key : String) (value : Value) : Entries → Entries
  | [] => []
  | (k, v) :: rest => if k == key then (k, value) :: rest else (k, v) :: replace key value rest

/-- Changes the table that a path leads to.  Tables on the way are opened where they are missing,
and a dotted key leads through none that has a header. -/
def changeAt (isDotted : Bool) (change : Opening → Entries → Option Entries) :
    List String → Opening → Entries → Option Entries
  | [], opening, entries => change opening entries
  | name :: path, _, entries =>
    match entries.lookup name with
    | none =>
      let opening := if isDotted then Opening.dotted else .implied
      (changeAt isDotted change path opening []).map fun inner =>
        entries ++ [(name, .table opening inner)]
    | some (.table opening inner) =>
      if opening == .inLine || (isDotted && opening == .header) then none
      else
        (changeAt isDotted change path opening inner).map fun inner =>
          replace name (.table opening inner) entries
    | some (.tables (last :: others)) =>
      (changeAt isDotted change path .header last).map fun last =>
        replace name (.tables (last :: others)) entries
    | some _ => none

/-- Adds a key that is not there yet. -/
def addKey (key : String) (value : Value) (entries : Entries) : Option Entries :=
  if (entries.lookup key).isSome then none else some (entries ++ [(key, value)])

/-- Adds the value of a key, which may be dotted. -/
def addPair (key : List String) (value : Value) (opening : Opening) (entries : Entries) :
    Option Entries :=
  match key.reverse with
  | [] => none
  | last :: [] => addKey last value entries
  | last :: path =>
    changeAt true (fun o inner => if o == .dotted then addKey last value inner else none)
      path.reverse opening entries

/-- Opens the table of a header. -/
def openTable (last : String) (_ : Opening) (entries : Entries) : Option Entries :=
  match entries.lookup last with
  | none => some (entries ++ [(last, .table .header [])])
  | some (.table .implied inner) => some (replace last (.table .header inner) entries)
  | some _ => none

/-- Opens a further table of a repeated header. -/
def openNext (last : String) (_ : Opening) (entries : Entries) : Option Entries :=
  match entries.lookup last with
  | none => some (entries ++ [(last, .tables [[]])])
  | some (.tables all) => some (replace last (.tables ([] :: all)) entries)
  | some _ => none

/-- Opens the table of a header, which may be a repeated one. -/
def addHeader (isRepeated : Bool) (path : List String) (entries : Entries) : Option Entries :=
  match path.reverse with
  | [] => none
  | last :: above =>
    changeAt false (if isRepeated then openNext last else openTable last) above.reverse .header
      entries

theorem replace_nil (key : String) (value : Value) : replace key value [] = [] := rfl

theorem changeAt_nil (isDotted : Bool) (change : Opening → Entries → Option Entries)
    (opening : Opening) (entries : Entries) :
    changeAt isDotted change [] opening entries = change opening entries := rfl

/-- A key has one value: setting it twice is refused. -/
theorem addKey_of_lookup {key : String} {v : Value} {entries : Entries}
    (h : entries.lookup key = some v) (value : Value) : addKey key value entries = none := by
  simp [addKey, h]

end TypedClient.Toml
