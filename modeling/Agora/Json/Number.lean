import Agora.Decimal.Binary64

/-!
# Number literals

A literal is kept as it was written. It is a whole number if it has neither point nor exponent, is
not minus zero and fits into 64 bits, signed if it is negative and unsigned otherwise; every other
literal is a number of double precision, or out of range if it is too large for one. The range is
decided as a reader does it that keeps the leading digits as a word of 64 bits and multiplies by a
rounded power of ten.
-/

namespace Agora.Json.Number

open Decimal (Binary64 digit?)

/-- The whole number that a literal stands for. -/
def whole? (literal : List Char) : Option Int := do
  let n ← match literal with
    | '+' :: _ => none
    | cs => Decimal.int? cs
  if literal = ['-', '0'] then none
  else if -9223372036854775808 ≤ n ∧ n < 18446744073709551616 then some n
  else none

/-- Leading digits and exponent of ten, while the digits of a literal are read. -/
structure Leading where
  digits : Nat := 0
  exponent : Int := 0
  full : Bool := false

/-- The digits that fit are kept; later ones before the point only count. -/
def Leading.before (l : Leading) (d : Nat) : Leading :=
  if l.full ∨ 18446744073709551615 < l.digits * 10 + d then
    { l with exponent := l.exponent + 1, full := true }
  else { l with digits := l.digits * 10 + d }

/-- The digits after the point are kept up to the first that does not fit. -/
def Leading.after (l : Leading) (d : Nat) : Leading :=
  if l.full ∨ 18446744073709551615 < l.digits * 10 + d then { l with full := true }
  else { l with digits := l.digits * 10 + d, exponent := l.exponent - 1 }

/-- The digits of a list of characters, others left out. -/
def digitValues (cs : List Char) : List Nat := cs.filterMap digit?

/-- The leading digits of a literal with its exponent applied. -/
def leading (literal : List Char) : Leading :=
  let isExponent := fun c : Char => c = 'e' || c = 'E'
  let mantissa := literal.takeWhile (!isExponent ·)
  let power := (literal.dropWhile (!isExponent ·)).drop 1
  let before := (digitValues (mantissa.takeWhile (· ≠ '.'))).foldl Leading.before {}
  let after := (digitValues (mantissa.dropWhile (· ≠ '.'))).foldl Leading.after
    { before with full := false }
  { after with exponent := after.exponent + (Decimal.int? power).getD 0 }

/-- The literal is too large for double precision. -/
def isOutOfRange (literal : List Char) : Bool :=
  let l := leading literal
  if l.digits = 0 then false
  else if 308 < l.exponent then true
  else if l.exponent < 0 then false
  else match Binary64.ofRatio l.digits 1, Binary64.ofRatio (Nat.pow 10 l.exponent.toNat) 1 with
    | .finite m q, .finite m' q' =>
      Binary64.ofRatio (m * m' * Nat.pow 2 (q + q' + 2200).toNat) (Nat.pow 2 2200) = .infinite
    | _, _ => true

end Agora.Json.Number
