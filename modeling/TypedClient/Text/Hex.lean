/-!
# Hexadecimal digits

Escapes in several formats write code points and bytes in hexadecimal digits, of either case when
read and of the case that the format asks for when written.
-/

namespace TypedClient.Text

/-- The value of a hexadecimal digit of either case. -/
def hexValue? (c : Char) : Option Nat :=
  if c.isDigit then some (c.toNat - 48)
  else if 'a' ≤ c && c ≤ 'f' then some (c.toNat - 87)
  else if 'A' ≤ c && c ≤ 'F' then some (c.toNat - 55)
  else none

/-- The lower-case digit of a value below 16. -/
def hexDigit (n : Nat) : Char := (Nat.toDigits 16 n).headD '0'

/-- The upper-case digit of a value below 16. -/
def upperHexDigit (n : Nat) : Char := (hexDigit n).toUpper

/-- The digits of a number, in lower case. -/
def hexChars (n : Nat) : List Char := Nat.toDigits 16 n

/-- A digit of either case is read back. -/
theorem hexValue?_hexDigit {n : Nat} (h : n < 16) :
    hexValue? (hexDigit n) = some n ∧ hexValue? (upperHexDigit n) = some n := by
  have all : ∀ m ∈ List.range 16,
      hexValue? (hexDigit m) = some m ∧ hexValue? (upperHexDigit m) = some m := by decide
  exact all n (List.mem_range.mpr h)

end TypedClient.Text
