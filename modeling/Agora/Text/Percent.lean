import Agora.Text.Hex
import Agora.Text.Split
import Agora.Text.Utf8

/-!
# Percent escapes and form pairs

In an address `%` and two hexadecimal digits stand for one byte; a `%` without them stands for
itself. The query part of an address is a list of `name=value` pairs joined by `&`, in which a
plus sign stands for a space as well.
-/

namespace Agora.Text.Percent

/-- The byte of two hexadecimal digits given as bytes. -/
def byte? (high low : UInt8) : Option UInt8 := do
  let h ← Hex.value? (.ofNat high.toNat)
  let l ← Hex.value? (.ofNat low.toNat)
  return .ofNat (h * 16 + l)

/-- Replaces each escape by its byte. -/
def decode : List UInt8 → List UInt8
  | [] => []
  | [a] => [a]
  | [a, b] => [a, b]
  | a :: b :: c :: rest =>
    if a = 0x25 then
      match byte? b c with
      | some x => x :: decode rest
      | none => a :: decode (b :: c :: rest)
    else a :: decode (b :: c :: rest)

/-- The text of a path segment, if its bytes are well formed once the escapes are replaced. -/
def decodeSegment? (cs : List Char) : Option (List Char) :=
  Utf8.decode? (decode (Utf8.encodeChars cs))

/-- The text of a name or a value of a query. -/
def decodeFormText (cs : List Char) : List Char :=
  Utf8.decodeLossy (decode ((Utf8.encodeChars cs).map fun b => if b = 0x2B then 0x20 else b))

/-- A pair is cut at its first equals sign; without one the value is empty. -/
def formPair (cs : List Char) : List Char × List Char :=
  (decodeFormText (cs.takeWhile (· ≠ '=')), decodeFormText ((cs.dropWhile (· ≠ '=')).drop 1))

/-- The pairs of a query, in order; empty parts are passed over. -/
def formPairs (query : List Char) : List (List Char × List Char) :=
  ((splitAt (· = '&') query).filter (!·.isEmpty)).map formPair

end Agora.Text.Percent
