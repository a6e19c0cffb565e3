import TypedClient.Text.Hex
import TypedClient.Json.Token

/-!
# Values of scalars

A plain scalar may stand for nothing, a truth value or a number; every other scalar is a text.
Whole numbers are written in decimal, hexadecimal, octal or binary digits and fit into 64 bits.
Decimal digits behind a leading zero are a text.
-/

namespace TypedClient.Yaml

open Number

/-- Whether the text stands for nothing. -/
def isNull (text : String) : Bool := ["null", "Null", "NULL", "~"].contains text

/-- The truth value that a text stands for. -/
def bool? (text : String) : Option Bool :=
  if ["true", "True", "TRUE"].contains text then some true
  else if ["false", "False", "FALSE"].contains text then some false
  else none

/-- The text without a plus sign in front. -/
def dropPlus : List Char → List Char
  | '+' :: cs => cs
  | cs => cs

/-- Whether the text, behind a sign, has decimal digits with a leading zero that is not all. -/
def isZeroLed (cs : List Char) : Bool :=
  let cs :=
    match cs with
    | '+' :: cs => cs
    | '-' :: cs => cs
    | cs => cs
  match cs with
  | '0' :: d :: ds => (d :: ds).all Char.isDigit
  | _ => false

/-! ## Whole numbers -/

/-- The value of a nonempty list of digits of the base. -/
def digitsValue? (base : Nat) (cs : List Char) : Option Nat :=
  if cs.isEmpty then none
  else
    cs.foldlM
      (fun n c =>
        match Text.hexValue? c with
        | some d => if d < base then some (n * base + d) else none
        | none => none)
      0

/-- The magnitude of a whole number behind its sign, in the base that it is marked with. -/
def magnitude? (cs : List Char) : Option Nat :=
  match cs with
  | '0' :: 'x' :: ds => digitsValue? 16 ds
  | '0' :: 'o' :: ds => digitsValue? 8 ds
  | '0' :: 'b' :: ds => digitsValue? 2 ds
  | ds => if isZeroLed ds then none else digitsValue? 10 ds

/-- A whole number as read. -/
inductive Whole where
  | fits (value : Int)
  /-- A number that needs more than 64 but not more than 128 bits. -/
  | tooLarge

/-- The whole number with a sign and a magnitude; `none` if it needs more than 128 bits. -/
def wholeOf? (negative : Bool) (n : Nat) : Option Whole :=
  if negative then
    if n ≤ Nat.pow 2 63 then some (.fits (-n))
    else if n ≤ Nat.pow 2 127 then some .tooLarge
    else none
  else if n < Nat.pow 2 64 then some (.fits n)
  else if n < Nat.pow 2 128 then some .tooLarge
  else none

/-- The whole number that a text stands for. -/
def whole? (cs : List Char) : Option Whole :=
  match cs with
  | '-' :: ds => (magnitude? ds).bind (wholeOf? true)
  | cs => (magnitude? (dropPlus cs)).bind (wholeOf? false)

/-! ## Numbers with a fraction or exponent -/

/-- A number as read. -/
inductive Floating where
  | finite (value : Double)
  /-- Infinite, or no number. -/
  | special

/-- The exponent behind its letter. -/
def exponent? (cs : List Char) : Option Int :=
  let (negative, ds) :=
    match cs with
    | '-' :: ds => (true, ds)
    | '+' :: ds => (false, ds)
    | ds => (false, ds)
  if ds.isEmpty || !ds.all Char.isDigit then none
  else
    let n : Int := Json.digitsValue ds
    some (if negative then -n else n)

/-- The finite double that a text without a plus sign stands for: digits with a point in between,
in front or behind, and maybe an exponent. -/
def decimal? (cs : List Char) : Option Double :=
  let (negative, cs) :=
    match cs with
    | '-' :: cs => (true, cs)
    | cs => (false, cs)
  let whole := cs.takeWhile Char.isDigit
  let rest := cs.dropWhile Char.isDigit
  let (fraction, rest) :=
    match rest with
    | '.' :: ds => (ds.takeWhile Char.isDigit, ds.dropWhile Char.isDigit)
    | rest => ([], rest)
  let exponent :=
    match rest with
    | [] => some 0
    | e :: ds => if e == 'e' || e == 'E' then exponent? ds else none
  if whole.isEmpty && fraction.isEmpty then none
  else
    exponent.bind fun e =>
      Double.ofDecimal? negative (Json.digitsValue (whole ++ fraction)) (e - fraction.length)

/-- The number that a text stands for, if it has the form of one with a fraction. -/
def floating? (text : String) : Option Floating :=
  let cs := text.toList
  let unsigned := dropPlus cs
  let word := String.ofList unsigned
  if [".inf", ".Inf", ".INF"].contains word then some .special
  else if ["-.inf", "-.Inf", "-.INF", ".nan", ".NaN", ".NAN"].contains text then some .special
  else if cs.head? == some '+' && (unsigned.head? == some '+' || unsigned.head? == some '-') then
    none
  else (decimal? unsigned).map .finite

/-! ## Scalars -/

/-- The JSON value of a number; what is not finite has none there. -/
def Floating.json : Floating → Json
  | finite value => .number (.double value)
  | special => .null

/-- The value of a plain scalar; `none` for a whole number that is too large. -/
def plainValue? (text : String) : Option Json :=
  if text.isEmpty || isNull text then some .null
  else
    match bool? text with
    | some b => some (.bool b)
    | none =>
      match whole? text.toList with
      | some (.fits n) => some (.number (.int n))
      | some .tooLarge => none
      | none =>
        if isZeroLed text.toList then some (.string text)
        else
          match floating? text with
          | some n => some n.json
          | none => some (.string text)

/-- The value of a scalar with a tag.  A tag of the document's own has no meaning here. -/
def taggedValue? (tag text : String) : Option Json :=
  if tag.toList.head? == some '!' then none
  else if tag == "tag:yaml.org,2002:bool" then (bool? text).map .bool
  else if tag == "tag:yaml.org,2002:int" then
    match whole? text.toList with
    | some (.fits n) => some (.number (.int n))
    | _ => none
  else if tag == "tag:yaml.org,2002:float" then (floating? text).map Floating.json
  else if tag == "tag:yaml.org,2002:null" then if isNull text then some .null else none
  else some (.string text)

end TypedClient.Yaml
