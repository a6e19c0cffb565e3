import TypedClient.Text.Blank

/-!
# Text from bytes

Bytes are read as UTF-8.  Where they are none, every longest run of bytes that some character
starts with is replaced by one replacement character, and so is every byte that no character
starts with.
-/

namespace TypedClient.Text

/-- The character that stands for bytes without a meaning. -/
def replacement : Char := Char.ofNat 0xFFFD

/-- A character of which not all bytes have been read. -/
structure OpenChar where
  /-- The bits read so far. -/
  value : Nat
  /-- How many bytes are missing. -/
  missing : Nat
  /-- The least byte that may follow. -/
  low : Nat
  /-- The greatest byte that may follow. -/
  high : Nat

/-- What a byte starts: a character of its own, or one of several bytes. -/
inductive Start where
  | done (c : Char)
  | more (p : OpenChar)

/-- What a byte starts where no character is open. -/
def startOf (b : Nat) : Start :=
  if b < 0x80 then .done (Char.ofNat b)
  else if 0xC2 ≤ b && b ≤ 0xDF then .more ⟨b - 0xC0, 1, 0x80, 0xBF⟩
  else if b == 0xE0 then .more ⟨0, 2, 0xA0, 0xBF⟩
  else if b == 0xED then .more ⟨0xD, 2, 0x80, 0x9F⟩
  else if 0xE1 ≤ b && b ≤ 0xEF then .more ⟨b - 0xE0, 2, 0x80, 0xBF⟩
  else if b == 0xF0 then .more ⟨0, 3, 0x90, 0xBF⟩
  else if b == 0xF4 then .more ⟨4, 3, 0x80, 0x8F⟩
  else if 0xF1 ≤ b && b ≤ 0xF3 then .more ⟨b - 0xF0, 3, 0x80, 0xBF⟩
  else .done replacement

/-- Reads bytes; `p` is the character that is open. -/
def decodeFrom (p : Option OpenChar) : List UInt8 → List Char
  | [] => if p.isSome then [replacement] else []
  | byte :: bytes =>
    let b := byte.toNat
    let restart (before : List Char) : List Char :=
      match startOf b with
      | .done c => before ++ c :: decodeFrom none bytes
      | .more q => before ++ decodeFrom (some q) bytes
    match p with
    | none => restart []
    | some p =>
      if p.low ≤ b && b ≤ p.high then
        let value := p.value * 64 + (b - 0x80)
        if p.missing == 1 then Char.ofNat value :: decodeFrom none bytes
        else decodeFrom (some ⟨value, p.missing - 1, 0x80, 0xBF⟩) bytes
      else restart [replacement]

/-- The text that bytes stand for. -/
def ofBytes (bytes : List UInt8) : List Char := decodeFrom none bytes

theorem ofBytes_nil : ofBytes [] = [] := rfl

end TypedClient.Text
