import Agora.Decimal.Integer

/-!
# Numbers of double precision

The positive numbers `m · 2 ^ q` with `m` below `2 ^ 53` and `-1074 ≤ q ≤ 971`, in exact
arithmetic: rounding a fraction to the nearest of them (a tie goes to the even `m`), and the
fewest decimal digits that are rounded back to the same number (of two decimals equally near the
greater one).
-/

namespace Agora.Decimal

/-- A magnitude of double precision. -/
inductive Binary64 where
  | finite (mantissa : Nat) (exponent : Int)
  | infinite
deriving DecidableEq, Repr

namespace Binary64

/-- The nearest whole number to `num / den`, a tie going to the even one. -/
def divideEven (num den : Nat) : Nat :=
  let q := num / den
  let twice := 2 * (num % den)
  if twice < den then q else if den < twice then q + 1 else q + q % 2

/-- The nearest whole number to `num / den`, a half going up. -/
def divideHalfUp (num den : Nat) : Nat := (2 * num + den) / (2 * den)

/-- `num / den` measured in steps of `2 ^ q`, as a fraction. -/
def inSteps (num den : Nat) (q : Int) : Nat × Nat :=
  if 0 ≤ q then (num, den * Nat.pow 2 q.toNat) else (num * Nat.pow 2 (-q).toNat, den)

/-- The exponent of the finest steps in which `num / den` has at most 53 binary digits. -/
def stepExponent (num den : Nat) : Int :=
  let guess := max (-1074) ((num.log2 : Int) - den.log2 - 53)
  let (n, d) := inSteps num den guess
  if n / d < Nat.pow 2 53 then guess else guess + 1

/-- The nearest magnitude to `num / den`, for a positive `den`. -/
def ofRatio (num den : Nat) : Binary64 :=
  if num = 0 then .finite 0 (-1074)
  else
    let q := stepExponent num den
    let (n, d) := inSteps num den q
    let m := divideEven n d
    let (m, q) := if m = Nat.pow 2 53 then (Nat.pow 2 52, q + 1) else (m, q)
    if 971 < q then .infinite else .finite m q

/-- The nearest magnitude to `digits · 10 ^ exponent`. Exponents far outside the range are
settled without computing the power. -/
def ofScientific (digits : Nat) (exponent : Int) : Binary64 :=
  if digits = 0 then .finite 0 (-1074)
  else if 400 < exponent then .infinite
  else if exponent + (ofNat digits).length < -400 then .finite 0 (-1074)
  else if 0 ≤ exponent then ofRatio (digits * Nat.pow 10 exponent.toNat) 1
  else ofRatio digits (Nat.pow 10 (-exponent).toNat)

/-- A finite magnitude as a fraction. -/
def ratio (m : Nat) (q : Int) : Nat × Nat :=
  if 0 ≤ q then (m * Nat.pow 2 q.toNat, 1) else (m, Nat.pow 2 (-q).toNat)

/-- The nearest whole number to a finite magnitude, a half going up. -/
def roundHalfUp (m : Nat) (q : Int) : Nat :=
  let (num, den) := ratio m q
  divideHalfUp num den

/-- The greatest `e` with `10 ^ e ≤ num / den`, for positive arguments. -/
def decimalExponent (num den : Nat) : Int :=
  if den ≤ num then (ofNat (num / den)).length - 1
  else -((ofNat ((den - 1) / num)).length : Int)

/-- The decimal of `n` digits nearest to a magnitude, a tie going up, if it is rounded back to
the magnitude; else its neighbour on the other side, if that one is. -/
def digitsOfLength? (m : Nat) (q : Int) (n : Nat) : Option (Nat × Int) :=
  let (num, den) := ratio m q
  let e := decimalExponent num den - n + 1
  let (num', den') :=
    if 0 ≤ e then (num, den * Nat.pow 10 e.toNat) else (num * Nat.pow 10 (-e).toNat, den)
  let low := num' / den'
  let best := divideHalfUp num' den'
  let other := if best = low then low + 1 else low
  if ofScientific best e = .finite m q then some (best, e)
  else if ofScientific other e = .finite m q then some (other, e)
  else none

/-- The fewest digits, and the exponent of ten that goes with them, of a positive finite
magnitude. -/
def shortest (m : Nat) (q : Int) : Nat × Int :=
  ((List.range 17).findSome? fun i => digitsOfLength? m q (i + 1)).getD (m, q)

/-- A magnitude in positional notation, with no point if it is whole. -/
def positional : Binary64 → List Char
  | .infinite => ['i', 'n', 'f']
  | .finite 0 _ => ['0']
  | .finite m q =>
    let (digits, e) := shortest m q
    if 0 ≤ e then ofNat (digits * Nat.pow 10 e.toNat)
    else
      let unit := Nat.pow 10 (-e).toNat
      let tail := (padded (-e).toNat (digits % unit)).reverse.dropWhile (· = '0')
      if tail.isEmpty then ofNat (digits / unit)
      else ofNat (digits / unit) ++ '.' :: tail.reverse

end Binary64

end Agora.Decimal
