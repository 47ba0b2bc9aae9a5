/-!
# Hexadecimal digits

Two small digits for each byte, the high half first.
-/

namespace Agora.Text.Hex

/-- The digit of a number below sixteen, in small letters. -/
def digit (n : Nat) : Char := if n < 10 then .ofNat (48 + n) else .ofNat (87 + n)

/-- The value of a digit, in either case. -/
def value? (c : Char) : Option Nat :=
  if '0' ≤ c ∧ c ≤ '9' then some (c.toNat - 48)
  else if 'a' ≤ c ∧ c ≤ 'f' then some (c.toNat - 87)
  else if 'A' ≤ c ∧ c ≤ 'F' then some (c.toNat - 55)
  else none

def encodeByte (b : UInt8) : List Char := [digit (b.toNat / 16), digit (b.toNat % 16)]

/-- The digits of the bytes, in order. -/
def encode (bytes : List UInt8) : String := String.ofList (bytes.flatMap encodeByte)

end Agora.Text.Hex
