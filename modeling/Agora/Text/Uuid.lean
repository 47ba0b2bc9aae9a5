import Agora.Text.Hex

/-!
# Random identifiers

Sixteen bytes in hexadecimal, cut by hyphens into groups of 8, 4, 4, 4 and 12 digits. Two places
are not random: the digit that names version 4, and the two bits that name the variant.
-/

namespace Agora.Text.Uuid

/-- The bytes with version and variant in place. -/
def marked (bytes : List UInt8) : List UInt8 :=
  bytes.mapIdx fun i b =>
    if i = 6 then (b &&& 0x0f) ||| 0x40 else if i = 8 then (b &&& 0x3f) ||| 0x80 else b

/-- The identifier of sixteen random bytes. -/
def ofBytes (bytes : List UInt8) : String :=
  let digits := (marked bytes).flatMap Hex.encodeByte
  String.ofList (digits.take 8 ++ '-' :: (digits.drop 8).take 4 ++ '-' :: (digits.drop 12).take 4 ++
    '-' :: (digits.drop 16).take 4 ++ '-' :: digits.drop 20)

/-- A digit in small letters. -/
def isDigit (c : Char) : Bool := ('0' ≤ c && c ≤ '9') || ('a' ≤ c && c ≤ 'f')

/-- The text is an identifier of version 4 in small letters. -/
def isVersion4 (text : String) : Bool :=
  let cs := text.toList
  cs.length = 36 && cs[14]? = some '4' && (cs[19]?.any fun c => ['8', '9', 'a', 'b'].contains c) &&
    (cs.mapIdx fun i c =>
      if i = 8 ∨ i = 13 ∨ i = 18 ∨ i = 23 then decide (c = '-') else isDigit c).all id

end Agora.Text.Uuid
