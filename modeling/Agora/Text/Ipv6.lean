import Agora.Decimal.Integer
import Agora.Text.Hex
import Agora.Text.Split

/-!
# Numeric addresses of version 6

Eight groups of up to four hexadecimal digits with colons between them. Two colons stand, once at
most, for one or more groups of zeros. The last two groups may be written as four decimal bytes
with points between them.
-/

namespace Agora.Text.Ipv6

/-- A group: one to four hexadecimal digits. -/
def isGroup (cs : List Char) : Bool :=
  !cs.isEmpty && cs.length ≤ 4 && cs.all fun c => (Hex.value? c).isSome

/-- A decimal byte without leading zeros. -/
def isByte (cs : List Char) : Bool :=
  cs.length ≤ 3 && (cs.head? ≠ some '0' || cs.length = 1) && (Decimal.nat? cs).any (· < 256)

/-- Four bytes with points between them. -/
def isDotted (cs : List Char) : Bool :=
  let parts := splitAt (· = '.') cs
  parts.length = 4 && parts.all isByte

/-- How many groups a list of parts stands for, if only the last one may be dotted. -/
def groupCount? (mayEndDotted : Bool) : List (List Char) → Option Nat
  | [] => some 0
  | part :: rest =>
    if isGroup part then (groupCount? mayEndDotted rest).map (· + 1)
    else if mayEndDotted && rest.isEmpty && isDotted part then some 2
    else none

/-- How many groups a text stands for; the empty text has none. -/
def groups? (mayEndDotted : Bool) (cs : List Char) : Option Nat :=
  if cs.isEmpty then some 0 else groupCount? mayEndDotted (splitAt (· = ':') cs)

/-- What stands before the first two colons in a row, and what follows them. -/
def cutAtGap : List Char → List Char × Option (List Char)
  | [] => ([], none)
  | c :: rest =>
    if c = ':' ∧ rest.head? = some ':' then ([], some rest.tail)
    else
      let (front, back) := cutAtGap rest
      (c :: front, back)

/-- The text is an address. -/
def isAddress (cs : List Char) : Bool :=
  match cutAtGap cs with
  | (whole, none) => groups? true whole = some 8
  | (front, some back) =>
    match groups? false front, groups? true back with
    | some m, some n => m + n ≤ 7
    | _, _ => false

end Agora.Text.Ipv6
