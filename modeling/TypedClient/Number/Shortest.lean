import TypedClient.Number.Double

/-!
# Shortest decimal form of a double

Among the decimals that read back as a double, the ones with the fewest digits are preferred, and
of these the one nearest to the double.  The search goes through the digit counts 1, 2, … 17 and
looks at the two neighbours of the double on each decimal grid.
-/

namespace TypedClient.Number

/-- The decimal `digits * 10 ^ exponent`. -/
structure Decimal where
  digits : Nat
  exponent : Int
  deriving DecidableEq

/-- Removes trailing zeros from the digits. -/
def Decimal.stripZeros : (fuel : Nat) → Decimal → Decimal
  | 0, d => d
  | fuel + 1, d =>
    if d.digits != 0 && d.digits % 10 == 0 then stripZeros fuel ⟨d.digits / 10, d.exponent + 1⟩
    else d

/-- The exponent of the leading decimal digit of `num / den`. -/
def leadingExponent (num den : Nat) : Int :=
  if den ≤ num then (Nat.toDigits 10 (num / den)).length - 1
  else
    let d := (Nat.toDigits 10 (den / num)).length
    if num * Nat.pow 10 (d - 1) == den then 1 - (d : Int) else -(d : Int)

/-- The numbers that read back as one double: `value` is the double itself, `low` and `high` are
the ends of the interval, all over the one denominator `unit`. -/
structure Interval where
  low : Nat
  value : Nat
  high : Nat
  unit : Nat
  closed : Bool

/-- The interval of a double.  The gap below a power of two is half as wide. -/
def Double.interval (x : Double) : Interval :=
  let m := x.significand
  let narrow := m == Nat.pow 2 52 && Double.minExponent < x.exponent
  let e := x.exponent - 2
  let up := if 0 ≤ e then e.toNat else 0
  let down := if 0 ≤ e then 0 else (-e).toNat
  ⟨(4 * m - (if narrow then 1 else 2)) <<< up, (4 * m) <<< up, (4 * m + 2) <<< up, 1 <<< down,
    m % 2 == 0⟩

/-- Whether the decimal lies in the interval. -/
def Interval.contains (i : Interval) (d : Decimal) : Bool :=
  let (num, den) :=
    if 0 ≤ d.exponent then (d.digits * Nat.pow 10 d.exponent.toNat, 1)
    else (d.digits, Nat.pow 10 (-d.exponent).toNat)
  let n := num * i.unit
  if i.closed then i.low * den ≤ n && n ≤ i.high * den else i.low * den < n && n < i.high * den

/-- The decimal with `n` digits that lies in the interval and is nearest to its value. -/
def Interval.nearest? (i : Interval) (n : Nat) : Option Decimal :=
  let p := leadingExponent i.value i.unit - ((n : Int) - 1)
  let (num, den) :=
    if 0 ≤ p then (i.value, i.unit * Nat.pow 10 p.toNat)
    else (i.value * Nat.pow 10 (-p).toNat, i.unit)
  let below : Decimal := ⟨num / den, p⟩
  let above : Decimal := ⟨num / den + 1, p⟩
  let nearBelow := 2 * (num % den) ≤ den && (2 * (num % den) != den || num / den % 2 == 0)
  match i.contains below, i.contains above with
  | true, true => some (if nearBelow then below else above)
  | true, false => some below
  | false, true => some above
  | false, false => none

/-- The shortest decimal that reads back as the magnitude of the double. -/
def Double.shortest (x : Double) : Decimal :=
  if x.isZero then ⟨0, 0⟩
  else
    let i := x.interval
    match (List.range 17).findSome? fun n => i.nearest? (n + 1) with
    | some d => d.stripZeros 20
    | none => ⟨0, 0⟩

/-- The decimal digits of a natural number. -/
def digitChars (n : Nat) : List Char := Nat.toDigits 10 n

/-- The digits of a decimal around a point; `atLeastOne` asks for a digit behind it. -/
def Decimal.positional (d : Decimal) (atLeastOne : Bool) : List Char :=
  let ds := digitChars d.digits
  if 0 ≤ d.exponent then
    ds ++ List.replicate d.exponent.toNat '0' ++ (if atLeastOne then ['.', '0'] else [])
  else
    let places := (-d.exponent).toNat
    if places < ds.length then ds.take (ds.length - places) ++ '.' :: ds.drop (ds.length - places)
    else '0' :: '.' :: (List.replicate (places - ds.length) '0' ++ ds)

/-- The digits of a decimal with a point behind the first one and a signed power of ten. -/
def Decimal.scientific (d : Decimal) : List Char :=
  let ds := digitChars d.digits
  let e : Int := d.exponent + ds.length - 1
  let mantissa :=
    match ds with
    | [] => []
    | [c] => [c]
    | c :: cs => c :: '.' :: cs
  mantissa ++ 'e' :: (if 0 ≤ e then '+' else '-') :: digitChars e.natAbs

/-- The written form of a double in data: positional from `1e-5` up to `1e16`, where a whole number
keeps one zero behind the point, and scientific outside of that. -/
def Double.text (x : Double) : List Char :=
  let d := x.shortest
  let lead : Int := d.exponent + (digitChars d.digits).length - 1
  let sign := if x.negative then ['-'] else []
  if d.digits == 0 then sign ++ ['0', '.', '0']
  else if -5 ≤ lead && lead < 16 then sign ++ d.positional true
  else sign ++ d.scientific

/-- The written form of a double in running text: always positional, and a whole number without a
point. -/
def Double.plainText (x : Double) : List Char :=
  let sign := if x.negative then ['-'] else []
  sign ++ x.shortest.positional false

end TypedClient.Number
