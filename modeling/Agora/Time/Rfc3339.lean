import Agora.Decimal.Integer
import Agora.Text.Blank
import Agora.Time.Instant

/-!
# RFC 3339 texts

An instant is written in UTC with the fewest of 0, 3, 6 or 9 fraction digits that lose nothing; a
leap second is written as second 60 and years outside 0000 to 9999 carry a sign.

Two readings are offered. `read?` takes the format as it stands: four digits of the year, two of
everything else, `T`, `t` or a single space between date and time. `readLoose?` takes what people
write around it: signed and longer years, single digits, blanks around the parts, `UTC` in place
of the offset. Both accept second 60 in any minute and a fraction of any length, of which nine
digits count.
-/

namespace Agora.Time

namespace Rfc3339

/-! ## Writing -/

/-- A year of four digits, with a sign if it is negative or longer. -/
def yearText (y : Int) : List Char :=
  if 0 ≤ y ∧ y ≤ 9999 then Decimal.padded 4 y.toNat
  else (if y < 0 then '-' else '+') ::
    (if y.natAbs ≤ 9999 then Decimal.padded 4 y.natAbs else Decimal.ofNat y.natAbs)

/-- The fraction of a second that is no leap second, with as many groups of three digits as it
needs. -/
def fractionText (nano : Nat) : List Char :=
  if nano = 0 then []
  else if nano % 1000000 = 0 then '.' :: Decimal.padded 3 (nano / 1000000)
  else if nano % 1000 = 0 then '.' :: Decimal.padded 6 (nano / 1000)
  else '.' :: Decimal.padded 9 nano

/-- Date and time of day up to the minute, each part separated as the format asks. -/
def minuteText (second : Int) : List Char :=
  let date := Date.ofDays (second / 86400)
  let inDay := (second % 86400).toNat
  yearText date.year ++ '-' :: Decimal.padded 2 date.month ++ '-' :: Decimal.padded 2 date.day ++
    'T' :: Decimal.padded 2 (inDay / 3600) ++ ':' :: Decimal.padded 2 (inDay / 60 % 60)

end Rfc3339

open Rfc3339 in
/-- The text of an instant in UTC. -/
def Instant.toChars (t : Instant) : List Char :=
  let inMinute := (t.second % 60).toNat
  minuteText t.second ++ ':' ::
    (if t.nano < 1000000000 then Decimal.padded 2 inMinute ++ fractionText t.nano
      else Decimal.padded 2 (inMinute + 1) ++ fractionText (t.nano - 1000000000)) ++ ['Z']

/-- The text of an instant in UTC. -/
def Instant.text (t : Instant) : String := String.ofList t.toChars

namespace Rfc3339

/-! ## Reading -/

/-! Every reader gives what it has read and the rest of the text. -/

/-- At most `most` digits; fails without any. -/
def digits? (most : Nat) (cs : List Char) : Option (Nat × List Char) := do
  let ds := (cs.take most).takeWhile fun c => (Decimal.digit? c).isSome
  return (← Decimal.nat? ds, cs.drop ds.length)

/-- Exactly `width` digits. -/
def exactly? (width : Nat) (cs : List Char) : Option (Nat × List Char) := do
  return (← if (cs.take width).length = width then Decimal.nat? (cs.take width) else none,
    cs.drop width)

/-- The given character. -/
def char? (c : Char) : List Char → Option (List Char)
  | d :: rest => if d = c then some rest else none
  | [] => none

/-- One of the three separators between date and time. -/
def separator? : List Char → Option (List Char)
  | c :: rest => if c = 'T' ∨ c = 't' ∨ c = ' ' then some rest else none
  | [] => none

/-- The nanoseconds of an optional fraction: a point and one or more digits. -/
def fraction? : List Char → Option (Nat × List Char)
  | '.' :: cs => do
    let ds := cs.takeWhile fun c => (Decimal.digit? c).isSome
    let n ← Decimal.nat? (ds.take 9)
    return (n * Nat.pow 10 (9 - (ds.take 9).length), cs.drop ds.length)
  | cs => some (0, cs)

/-- The seconds east of UTC that an offset stands for. Between hours and minutes stands what
`between` takes. -/
def offset? (between : List Char → Option (List Char)) : List Char → Option (Int × List Char)
  | [] => none
  | c :: cs =>
    if c = 'Z' ∨ c = 'z' then some (0, cs)
    else if c = '+' ∨ c = '-' ∨ c = '\u2212' then do
      let (hours, cs) ← exactly? 2 cs
      let cs ← between cs
      let (minutes, cs) ← exactly? 2 cs
      if minutes < 60 then
        let seconds : Int := hours * 3600 + minutes * 60
        return (if c = '+' then seconds else -seconds, cs)
      else none
    else none

/-- The parts of a text, before it is asked whether such an instant exists. -/
structure Parts where
  year : Int
  month : Nat
  day : Nat
  hour : Nat
  minute : Nat
  second : Nat
  nano : Nat
  offset : Int

/-- The instant that the parts name. The local time has to exist and its year to lie in the range
of instants, the offset has to be shorter than a day. -/
def Parts.instant? (p : Parts) : Option Instant :=
  let date : Date := ⟨p.year, p.month, p.day⟩
  if date.Exists ∧ p.hour < 24 ∧ p.minute < 60 ∧ p.second ≤ 60 ∧ -86400 < p.offset ∧
      p.offset < 86400 ∧ -262143 ≤ p.year ∧ p.year ≤ 262142 then
    let minutes : Int := date.toDays * 86400 + p.hour * 3600 + p.minute * 60
    if p.second = 60 then Instant.ofParts? (minutes + 59 - p.offset) (1000000000 + p.nano)
    else Instant.ofParts? (minutes + p.second - p.offset) p.nano
  else none

/-- The parts of a text in the format. -/
def parts? (cs : List Char) : Option Parts := do
  let (year, cs) ← exactly? 4 cs
  let (month, cs) ← exactly? 2 (← char? '-' cs)
  let (day, cs) ← exactly? 2 (← char? '-' cs)
  let (hour, cs) ← exactly? 2 (← separator? cs)
  let (minute, cs) ← exactly? 2 (← char? ':' cs)
  let (second, cs) ← exactly? 2 (← char? ':' cs)
  let (nano, cs) ← fraction? cs
  let (offset, cs) ← offset? (char? ':') cs
  if cs.isEmpty then return { year, month, day, hour, minute, second, nano, offset } else none

/-- A year: with a sign any number of digits, else up to four. -/
def looseYear? : List Char → Option (Int × List Char)
  | '-' :: cs => (digits? cs.length cs).map fun (n, cs) => (-(n : Int), cs)
  | '+' :: cs => (digits? cs.length cs).map fun (n, cs) => ((n : Int), cs)
  | cs => (digits? 4 cs).map fun (n, cs) => ((n : Int), cs)

/-- Blanks, the given character, blanks, and one or two digits. -/
def looseNext? (c : Char) (cs : List Char) : Option (Nat × List Char) := do
  digits? 2 (Text.trimStart (← char? c (Text.trimStart cs)))

/-- The offset, or the name of the time zone without one. -/
def looseOffset? (cs : List Char) : Option (Int × List Char) :=
  if (cs.take 3).map Char.toUpper = ['U', 'T', 'C'] then some (0, cs.drop 3)
  else offset? (fun cs => some (cs.dropWhile fun c => c = ':' || Text.isBlank c)) cs

/-- The parts of a text in the wider format. -/
def looseParts? (cs : List Char) : Option Parts := do
  let (year, cs) ← looseYear? (Text.trimStart cs)
  let (month, cs) ← looseNext? '-' cs
  let (day, cs) ← looseNext? '-' cs
  let (hour, cs) ← digits? 2 (Text.trimStart (← separator? cs))
  let (minute, cs) ← looseNext? ':' cs
  let (second, cs) ← looseNext? ':' cs
  let (nano, cs) ← fraction? cs
  let (offset, cs) ← looseOffset? (Text.trimStart cs)
  if (Text.trimStart cs).isEmpty then
    return { year, month, day, hour, minute, second, nano, offset }
  else none

end Rfc3339

/-- The instant that a text in the format names. -/
def Instant.read? (cs : List Char) : Option Instant := do (← Rfc3339.parts? cs).instant?

/-- The instant that a text in the wider format names. -/
def Instant.readLoose? (cs : List Char) : Option Instant := do (← Rfc3339.looseParts? cs).instant?

end Agora.Time
