/-!
# Double-precision numbers

A finite double is a sign, a significand below `2 ^ 53` and a power of two.  All arithmetic is
done on natural numbers: a result is the quotient of two of them, rounded once to the nearest
double, and of two equally near ones to the even one.
-/

namespace TypedClient.Number

/-- The number `± significand * 2 ^ exponent`. -/
structure Double where
  negative : Bool
  significand : Nat
  exponent : Int
  deriving DecidableEq

namespace Double

/-- The exponent of the smallest positive doubles. -/
def minExponent : Int := -1074

/-- The exponent of the largest doubles. -/
def maxExponent : Int := 971

/-- Zero with a sign. -/
def zero (negative : Bool) : Double := ⟨negative, 0, minExponent⟩

/-- Whether the number is zero, of either sign. -/
def isZero (x : Double) : Bool := x.significand == 0

/-- The number of the opposite sign. -/
def neg (x : Double) : Double := { x with negative := !x.negative }

/-- The quotient of two numbers rounded to the nearest whole one, a tie to the even one. -/
def roundDiv (num den : Nat) : Nat :=
  let q := num / den
  let r := num % den
  if den < 2 * r || (2 * r == den && q % 2 == 1) then q + 1 else q

/-- Numerator and denominator of `num / den * 2 ^ (-e)`. -/
def scaled (num den : Nat) (e : Int) : Nat × Nat :=
  if 0 ≤ e then (num, den <<< e.toNat) else (num <<< (-e).toNat, den)

/-- The exponent at which the quotient has 53 bits, but not below the smallest one. -/
def exponentOf (num den : Nat) : Int :=
  let guess : Int := max ((num.log2 : Int) - (den.log2 : Int) - 53) minExponent
  let (n, d) := scaled num den guess
  if Nat.pow 2 53 ≤ n / d then guess + 1 else guess

/-- The double nearest to `± num / den`; `none` when it would be too large. -/
def ofRatio? (negative : Bool) (num den : Nat) : Option Double :=
  if num == 0 || den == 0 then some (zero negative)
  else
    let e := exponentOf num den
    let (n, d) := scaled num den e
    let q := roundDiv n d
    let (q, e) := if q == Nat.pow 2 53 then (Nat.pow 2 52, e + 1) else (q, e)
    if maxExponent < e then none
    else if q == 0 then some (zero negative)
    else some ⟨negative, q, e⟩

/-- Numerator and denominator of the magnitude. -/
def ratio (x : Double) : Nat × Nat :=
  if 0 ≤ x.exponent then (x.significand <<< x.exponent.toNat, 1)
  else (x.significand, 1 <<< (-x.exponent).toNat)

/-- The double nearest to a natural number. -/
def ofNat? (n : Nat) : Option Double := ofRatio? false n 1

/-- The rounded product. -/
def mul? (x y : Double) : Option Double :=
  let (a, b) := x.ratio
  let (c, d) := y.ratio
  ofRatio? (x.negative != y.negative) (a * c) (b * d)

/-- The rounded quotient. -/
def div? (x y : Double) : Option Double :=
  let (a, b) := x.ratio
  let (c, d) := y.ratio
  ofRatio? (x.negative != y.negative) (a * d) (b * c)

/-- The double nearest to `± digits * 10 ^ exponent`; `none` when it would be too large. -/
def ofDecimal? (negative : Bool) (digits : Nat) (exponent : Int) : Option Double :=
  let size : Int := (Nat.toDigits 10 digits).length + exponent
  if digits == 0 || size < -400 then some (zero negative)
  else if 400 < size then none
  else if 0 ≤ exponent then ofRatio? negative (digits * Nat.pow 10 exponent.toNat) 1
  else ofRatio? negative digits (Nat.pow 10 (-exponent).toNat)

/-- Equality of values: the two zeros are one number. -/
def sameValue (x y : Double) : Bool := (x.isZero && y.isZero) || x == y

theorem sameValue_refl (x : Double) : x.sameValue x = true := by
  simp [sameValue]

end Double

end TypedClient.Number
