/-!
# Punycode

The ASCII form of a label with foreign characters.  The ASCII characters come first; the others
follow as a list of insertions in increasing order, each written as the distance from the one
before it, in digits whose thresholds adapt to the distances seen so far.
-/

namespace TypedClient.Url.Punycode

/-- The digit of a value below 36: letters first, then decimal digits. -/
def digit (d : Nat) : Char := if d < 26 then Char.ofNat (97 + d) else Char.ofNat (22 + d)

/-- The threshold of the digit at a position, between 1 and 26. -/
def threshold (position bias : Nat) : Nat := max 1 (min 26 (position - bias))

theorem one_le_threshold (position bias : Nat) : 1 ≤ threshold position bias := by
  unfold threshold
  omega

theorem threshold_le (position bias : Nat) : threshold position bias ≤ 26 := by
  unfold threshold
  omega

/-- A distance in digits, the lowest first; a digit below its threshold is the last. -/
def digits (bias position q : Nat) : List Char :=
  let t := threshold position bias
  if q < t then [digit q]
  else digit (t + (q - t) % (36 - t)) :: digits bias (position + 36) ((q - t) / (36 - t))
termination_by q
decreasing_by
  have h1 := one_le_threshold position bias
  have h2 := threshold_le position bias
  have := Nat.div_le_self (q - threshold position bias) (36 - threshold position bias)
  omega

/-- Divides a distance by 35 until it is at most 455, counting the divisions by 36. -/
def shrink (delta count : Nat) : Nat × Nat :=
  if 455 < delta then shrink (delta / 35) (count + 36) else (delta, count)
termination_by delta
decreasing_by exact Nat.div_lt_self (by omega) (by omega)

/-- The next bias, from a distance and the number of characters placed so far. -/
def adapt (delta placed : Nat) (isFirst : Bool) : Nat :=
  let scaled := if isFirst then delta / 700 else delta / 2
  let (rest, count) := shrink (scaled + scaled / placed) 0
  count + 36 * rest / (rest + 38)

/-- The state of the encoder. -/
structure Encoder where
  out : List Char
  delta : Nat
  bias : Nat
  placed : Nat

/-- Passes one character of the label while code point `m` is being inserted. -/
def Encoder.pass (basic m : Nat) (s : Encoder) (c : Char) : Encoder :=
  if c.toNat < m then { s with delta := s.delta + 1 }
  else if c.toNat == m then
    ⟨s.out ++ digits s.bias 36 s.delta, 0, adapt s.delta (s.placed + 1) (s.placed == basic),
      s.placed + 1⟩
  else s

/-- Inserts the code points of a list, in order, starting from code point `n`. -/
def Encoder.insertAll (label : List Char) (basic : Nat) : List Nat → Nat → Encoder → Encoder
  | [], _, s => s
  | m :: rest, n, s =>
    let before := { s with delta := s.delta + (m - n) * (s.placed + 1) }
    let after := label.foldl (Encoder.pass basic m) before
    insertAll label basic rest (m + 1) { after with delta := after.delta + 1 }

/-- The ASCII form of a label, without the mark in front of it. -/
def encode (label : List Char) : List Char :=
  let basic := label.filter fun c => c.toNat < 0x80
  let others := ((label.filter fun c => 0x80 ≤ c.toNat).map Char.toNat).mergeSort.eraseDups
  let start : Encoder := ⟨[], 0, 72, basic.length⟩
  basic ++ (if basic.isEmpty then [] else ['-']) ++
    (Encoder.insertAll label basic.length others 128 start).out

/-! ## Reading -/

/-- The value of a digit, in either case. -/
def digitValue? (c : Char) : Option Nat :=
  if c.isLower then some (c.toNat - 97)
  else if c.isUpper then some (c.toNat - 65)
  else if c.isDigit then some (c.toNat - 22)
  else none

/-- The state of the decoder: the label so far, the code point and the place of the last insertion,
and what has been read of the next distance. -/
structure Decoder where
  label : List Char
  code : Nat := 128
  index : Nat := 0
  bias : Nat := 72
  position : Nat := 36
  weight : Nat := 1
  distance : Nat := 0

/-- Inserts the character that lies a distance behind the last insertion. -/
def Decoder.insert (s : Decoder) (distance : Nat) : Option Decoder :=
  let count := s.label.length + 1
  let total := s.index + distance
  let code := s.code + total / count
  if code.isValidChar then
    some {
      label := s.label.insertIdx (total % count) (Char.ofNat code)
      code := code
      index := total % count + 1
      bias := adapt distance count (s.index == 0) }
  else none

/-- Takes one digit.  A digit below its threshold completes a distance. -/
def Decoder.push (s : Decoder) (c : Char) : Option Decoder :=
  match digitValue? c with
  | none => none
  | some d =>
    let t := threshold s.position s.bias
    let distance := s.distance + d * s.weight
    if d < t then s.insert distance
    else
      some { s with
        position := s.position + 36
        weight := s.weight * (36 - t)
        distance := distance }

/-- The label that an ASCII form without its mark stands for.  A last hyphen parts the ASCII
characters from the insertions. -/
def decode? (cs : List Char) : Option (List Char) :=
  let code := (cs.reverse.takeWhile (· != '-')).reverse
  let basic := (cs.take (cs.length - code.length)).dropLast
  match code.foldlM Decoder.push ({ label := basic } : Decoder) with
  | some s => if s.position == 36 then some s.label else none
  | none => none

end TypedClient.Url.Punycode
