/-!
# Base64 without padding

Three bytes are written as four digits of six bits; one or two bytes at the end as two or three
digits whose unused bits are zero. Reading accepts exactly what writing produces: no padding, no
other character, no unused bit set, no single digit left over.
-/

namespace Agora.Text.Base64

/-- An alphabet is settled by its last two digits. -/
structure Alphabet where
  digit62 : Char
  digit63 : Char

/-- The alphabet with `+` and `/`. -/
def standard : Alphabet := ⟨'+', '/'⟩

/-- The alphabet that is safe in addresses, with `-` and `_`. -/
def urlSafe : Alphabet := ⟨'-', '_'⟩

namespace Alphabet

variable (α : Alphabet)

/-- The digit of a number below 64. -/
def digit (n : Nat) : Char :=
  if n < 26 then .ofNat (65 + n)
  else if n < 52 then .ofNat (71 + n)
  else if n < 62 then .ofNat (n - 4)
  else if n = 62 then α.digit62
  else α.digit63

/-- The number that a digit stands for. -/
def value? (c : Char) : Option Nat :=
  if 'A' ≤ c ∧ c ≤ 'Z' then some (c.toNat - 65)
  else if 'a' ≤ c ∧ c ≤ 'z' then some (c.toNat - 71)
  else if '0' ≤ c ∧ c ≤ '9' then some (c.toNat + 4)
  else if c = α.digit62 then some 62
  else if c = α.digit63 then some 63
  else none

/-- The digits of the bytes. -/
def encode : List UInt8 → List Char
  | [] => []
  | [a] => [α.digit (a.toNat / 4), α.digit (a.toNat % 4 * 16)]
  | [a, b] =>
    [α.digit (a.toNat / 4), α.digit (a.toNat % 4 * 16 + b.toNat / 16),
      α.digit (b.toNat % 16 * 4)]
  | a :: b :: c :: rest =>
    α.digit (a.toNat / 4) :: α.digit (a.toNat % 4 * 16 + b.toNat / 16) ::
      α.digit (b.toNat % 16 * 4 + c.toNat / 64) :: α.digit (c.toNat % 64) :: encode rest

/-- The bytes that numbers below 64 stand for. -/
def bytesOf? : List Nat → Option (List UInt8)
  | [] => some []
  | [_] => none
  | [p, q] => if q % 16 = 0 then some [.ofNat (p * 4 + q / 16)] else none
  | [p, q, r] =>
    if r % 4 = 0 then some [.ofNat (p * 4 + q / 16), .ofNat (q % 16 * 16 + r / 4)] else none
  | p :: q :: r :: s :: rest =>
    (bytesOf? rest).map fun tail =>
      .ofNat (p * 4 + q / 16) :: .ofNat (q % 16 * 16 + r / 4) :: .ofNat (r % 4 * 64 + s) :: tail

/-- The bytes of a text of digits, if it is the written form of some bytes. -/
def decode? (cs : List Char) : Option (List UInt8) := do
  bytesOf? (← cs.mapM α.value?)

end Alphabet

end Agora.Text.Base64
