import TypedClient.Json.Basic
import TypedClient.Text.Hex

/-!
# Tokens of JSON text

The scanner is an automaton that reads one character at a time.  Between tokens it is idle; inside
a text, a number or a word it collects characters until the token is complete.  Texts are decoded
and numbers evaluated here, so that every token carries its value.
-/

namespace TypedClient.Json

open Number

/-- A token of JSON text. -/
inductive Token where
  | openBracket
  | closeBracket
  | openBrace
  | closeBrace
  | colon
  | comma
  | text (value : String)
  | scalar (value : Json)

/-! ## Numbers -/

/-- The largest whole number that fits into 64 bits. -/
def maxWord : Nat := Nat.pow 2 64 - 1

/-- A significand under construction: `digits * 10 ^ exponent`.  Digits that would make the
significand too large for 64 bits are dropped. -/
structure Significand where
  digits : Nat
  exponent : Int

/-- Appends a digit in front of the point.  Once a digit is dropped all further ones are. -/
def Significand.pushWhole (s : Significand) (d : Nat) : Significand :=
  if s.exponent == 0 && s.digits * 10 + d ≤ maxWord then { s with digits := s.digits * 10 + d }
  else { s with exponent := s.exponent + 1 }

/-- Appends digits behind the point, up to the first that has to be dropped. -/
def Significand.pushFraction (s : Significand) : List Nat → Significand
  | [] => s
  | d :: ds =>
    if s.digits * 10 + d ≤ maxWord then
      pushFraction ⟨s.digits * 10 + d, s.exponent - 1⟩ ds
    else s

/-- `value * 10 ^ exponent` in double-precision steps: powers beyond 308 are divided out one after
another, and a product too large is no number. -/
def scaleDouble (value : Double) (exponent : Int) : (steps : Nat) → Option Double
  | 0 => some value
  | steps + 1 =>
    if exponent.natAbs ≤ 308 then
      match Double.ofNat? (Nat.pow 10 exponent.natAbs) with
      | none => none
      | some power => if 0 ≤ exponent then value.mul? power else value.div? power
    else if value.isZero then some value
    else if 0 ≤ exponent then none
    else
      match Double.ofNat? (Nat.pow 10 308) with
      | none => none
      | some power =>
        match value.div? power with
        | none => none
        | some next => scaleDouble next (exponent + 308) steps

/-- The double that a significand and a sign stand for. -/
def Significand.double? (s : Significand) (negative : Bool) : Option Double :=
  match Double.ofNat? s.digits with
  | none => none
  | some value =>
    (scaleDouble value s.exponent (s.exponent.natAbs / 308 + 2)).map fun d =>
      if negative then d.neg else d

/-- The parts of a number as written. -/
structure NumberParts where
  negative : Bool
  whole : List Char
  fraction : Option (List Char)
  exponent : Option (Bool × List Char)

/-- Splits the text of a number into its parts, if it has the form of one. -/
def NumberParts.ofChars? (cs : List Char) : Option NumberParts :=
  let (negative, cs) :=
    match cs with
    | '-' :: rest => (true, rest)
    | _ => (false, cs)
  let whole := cs.takeWhile Char.isDigit
  let rest := cs.dropWhile Char.isDigit
  let wholeOk := !whole.isEmpty && (whole.head? != some '0' || whole.length == 1)
  let fractionPart :=
    match rest with
    | '.' :: ds =>
      let fraction := ds.takeWhile Char.isDigit
      if fraction.isEmpty then none else some (some fraction, ds.dropWhile Char.isDigit)
    | _ => some (none, rest)
  match fractionPart with
  | none => none
  | some (fraction, rest) =>
    let exponentPart :=
      match rest with
      | [] => some none
      | e :: ds =>
        if e == 'e' || e == 'E' then
          let (negExp, ds) :=
            match ds with
            | '-' :: ds => (true, ds)
            | '+' :: ds => (false, ds)
            | _ => (false, ds)
          if !ds.isEmpty && ds.all Char.isDigit then some (some (negExp, ds)) else none
        else none
    match exponentPart with
    | none => none
    | some exponent =>
      if wholeOk then some ⟨negative, whole, fraction, exponent⟩ else none

/-- The value of decimal digits. -/
def digitsValue (cs : List Char) : Nat := cs.foldl (fun n c => n * 10 + (c.toNat - 48)) 0

/-- The value of a number.  Whole numbers are exact within 64 bits, and a minus sign in front of a
zero makes it a double. -/
def NumberParts.value? (p : NumberParts) : Option JsonNumber :=
  let whole := p.whole.foldl (fun s c => s.pushWhole (c.toNat - 48)) (⟨0, 0⟩ : Significand)
  match p.fraction, p.exponent with
  | none, none =>
    if whole.exponent == 0 && !p.negative then some (.int whole.digits)
    else if whole.exponent == 0 && 0 < whole.digits && whole.digits ≤ Nat.pow 2 63 then
      some (.int (-whole.digits))
    else (whole.double? p.negative).map .double
  | fraction, exponent =>
    let s := whole.pushFraction ((fraction.getD []).map fun c => c.toNat - 48)
    match exponent with
    | none => (s.double? p.negative).map .double
    | some (negExp, ds) =>
      let e : Int := digitsValue ds
      if Nat.pow 2 31 ≤ e then
        if s.digits != 0 && !negExp then none
        else some (.double (Double.zero p.negative))
      else
        let shifted : Significand :=
          { s with exponent := if negExp then s.exponent - e else s.exponent + e }
        (shifted.double? p.negative).map .double

/-- Reads a number from its text. -/
def readNumber? (cs : List Char) : Option JsonNumber :=
  match NumberParts.ofChars? cs with
  | some parts => parts.value?
  | none => none

/-! ## The automaton -/

/-- Where the scanner stands.  Collected characters are kept in reverse. -/
inductive Scan where
  /-- Between tokens. -/
  | idle
  /-- Inside a text. -/
  | inText (done : List Char)
  /-- Behind a backslash. -/
  | escaped (done : List Char)
  /-- Inside a `\u` escape with the digits read so far; `high` is a waiting high surrogate. -/
  | unicode (done : List Char) (high : Option Nat) (count value : Nat)
  /-- Behind a high surrogate, where a backslash has to follow. -/
  | surrogate (done : List Char) (high : Nat)
  /-- Behind that backslash, where a `u` has to follow. -/
  | surrogateEscape (done : List Char) (high : Nat)
  /-- Inside a number. -/
  | inNumber (done : List Char)
  /-- Inside a word. -/
  | inWord (done : List Char)

/-- Whether the character can be part of a number. -/
def isNumberChar (c : Char) : Bool :=
  c.isDigit || c == '-' || c == '+' || c == '.' || c == 'e' || c == 'E'

/-- The token of a word. -/
def wordToken? (word : List Char) : Option Token :=
  if word == ['n', 'u', 'l', 'l'] then some (.scalar .null)
  else if word == ['t', 'r', 'u', 'e'] then some (.scalar (.bool true))
  else if word == ['f', 'a', 'l', 's', 'e'] then some (.scalar (.bool false))
  else none

/-- Leaves an idle scanner with one character: a token of its own, the start of one, or nothing. -/
def scanIdle (c : Char) : Option (List Token × Scan) :=
  match c with
  | ' ' => some ([], .idle)
  | '\n' => some ([], .idle)
  | '\r' => some ([], .idle)
  | '\t' => some ([], .idle)
  | '[' => some ([.openBracket], .idle)
  | ']' => some ([.closeBracket], .idle)
  | '\x7b' => some ([.openBrace], .idle)
  | '\x7d' => some ([.closeBrace], .idle)
  | ':' => some ([.colon], .idle)
  | ',' => some ([.comma], .idle)
  | '"' => some ([], .inText [])
  | c =>
    if c.isDigit || c == '-' then some ([], .inNumber [c])
    else if c.isAlpha then some ([], .inWord [c])
    else none

/-- Takes the character behind a backslash. -/
def scanEscape (done : List Char) (c : Char) : Option Scan :=
  match c with
  | '"' => some (.inText ('"' :: done))
  | '\\' => some (.inText ('\\' :: done))
  | '/' => some (.inText ('/' :: done))
  | 'b' => some (.inText ('\x08' :: done))
  | 'f' => some (.inText ('\x0c' :: done))
  | 'n' => some (.inText ('\n' :: done))
  | 'r' => some (.inText ('\r' :: done))
  | 't' => some (.inText ('\t' :: done))
  | 'u' => some (.unicode done none 0 0)
  | _ => none

/-- Completes a `\u` escape.  A high surrogate waits for a low one, and neither may stand alone. -/
def scanUnit (done : List Char) (high : Option Nat) (value : Nat) : Option Scan :=
  match high with
  | none =>
    if 0xD800 ≤ value && value < 0xDC00 then some (.surrogate done value)
    else if 0xDC00 ≤ value && value < 0xE000 then none
    else some (.inText (Char.ofNat value :: done))
  | some h =>
    if 0xDC00 ≤ value && value < 0xE000 then
      some (.inText (Char.ofNat (0x10000 + (h - 0xD800) * 0x400 + (value - 0xDC00)) :: done))
    else none

/-- One step of the scanner: the tokens that the character completes and the new state. -/
def scanStep (state : Scan) (c : Char) : Option (List Token × Scan) :=
  match state with
  | .idle => scanIdle c
  | .inText done =>
    if c == '"' then some ([.text (String.ofList done.reverse)], .idle)
    else if c == '\\' then some ([], .escaped done)
    else if c.toNat < 0x20 then none
    else some ([], .inText (c :: done))
  | .escaped done => (scanEscape done c).map ([], ·)
  | .unicode done high count value =>
    match Text.hexValue? c with
    | none => none
    | some d =>
      if count == 3 then (scanUnit done high (value * 16 + d)).map ([], ·)
      else some ([], .unicode done high (count + 1) (value * 16 + d))
  | .surrogate done high => if c == '\\' then some ([], .surrogateEscape done high) else none
  | .surrogateEscape done high =>
    if c == 'u' then some ([], .unicode done (some high) 0 0) else none
  | .inNumber done =>
    if isNumberChar c then some ([], .inNumber (c :: done))
    else
      match readNumber? done.reverse, scanIdle c with
      | some n, some (tokens, next) => some (.scalar (.number n) :: tokens, next)
      | _, _ => none
  | .inWord done =>
    if c.isAlpha then some ([], .inWord (c :: done))
    else
      match wordToken? done.reverse, scanIdle c with
      | some t, some (tokens, next) => some (t :: tokens, next)
      | _, _ => none

/-- The token that the end of the text completes. -/
def scanEnd : Scan → Option (List Token)
  | .idle => some []
  | .inNumber done => (readNumber? done.reverse).map fun n => [.scalar (.number n)]
  | .inWord done => (wordToken? done.reverse).map ([·])
  | _ => none

/-- The tokens of a text, read from a state of the scanner. -/
def scanFrom (state : Scan) : List Char → Option (List Token)
  | [] => scanEnd state
  | c :: cs =>
    match scanStep state c with
    | none => none
    | some (tokens, next) => (scanFrom next cs).map (tokens ++ ·)

/-- The tokens of a text; `none` if a token is malformed. -/
def tokens? (cs : List Char) : Option (List Token) := scanFrom .idle cs

end TypedClient.Json
