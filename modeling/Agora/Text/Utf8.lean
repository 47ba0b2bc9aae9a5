/-!
# UTF-8

Writing characters as bytes, and a reading that never fails: ill-formed bytes are kept as holes,
one hole for each maximal piece that no well-formed text could begin with. Three readers are built
on it: `decode?` (no hole allowed), `decodeLossy` (a hole shows as U+FFFD) and whoever wants to
look at the holes.
-/

namespace Agora.Text.Utf8

/-- The one to four bytes of a character. -/
def encodeChar (c : Char) : List UInt8 :=
  let n := c.toNat
  if n < 0x80 then [.ofNat n]
  else if n < 0x800 then [.ofNat (0xC0 + n / 64), .ofNat (0x80 + n % 64)]
  else if n < 0x10000 then
    [.ofNat (0xE0 + n / 4096), .ofNat (0x80 + n / 64 % 64), .ofNat (0x80 + n % 64)]
  else
    [.ofNat (0xF0 + n / 262144), .ofNat (0x80 + n / 4096 % 64), .ofNat (0x80 + n / 64 % 64),
      .ofNat (0x80 + n % 64)]

/-- The bytes of a list of characters. -/
def encodeChars (cs : List Char) : List UInt8 := cs.flatMap encodeChar

/-- The bytes of a string. -/
def encode (s : String) : List UInt8 := encodeChars s.toList

/-- A character of which the first bytes were read: the value so far, how many bytes are missing,
and the range that the next one has to lie in. -/
structure Pending where
  value : Nat
  missing : Nat
  lowest : Nat := 0x80
  highest : Nat := 0xBF

/-- What a byte can be at the start of a character. -/
inductive Lead where
  | char (c : Char)
  | opens (p : Pending)
  | stray

/-- The reading of a byte that starts a character. Overlong forms, surrogates and values above
U+10FFFF are excluded by the range of the second byte. -/
def lead (b : UInt8) : Lead :=
  let n := b.toNat
  if n < 0x80 then .char (.ofNat n)
  else if n < 0xC2 then .stray
  else if n < 0xE0 then .opens { value := n - 0xC0, missing := 1 }
  else if n = 0xE0 then .opens { value := 0, missing := 2, lowest := 0xA0 }
  else if n = 0xED then .opens { value := 0xD, missing := 2, highest := 0x9F }
  else if n < 0xF0 then .opens { value := n - 0xE0, missing := 2 }
  else if n = 0xF0 then .opens { value := 0, missing := 3, lowest := 0x90 }
  else if n < 0xF4 then .opens { value := n - 0xF0, missing := 3 }
  else if n = 0xF4 then .opens { value := 4, missing := 3, highest := 0x8F }
  else .stray

/-- One byte at the start of a character: what is finished by it, and what it leaves open. -/
def start (b : UInt8) : List (Option Char) × Option Pending :=
  match lead b with
  | .char c => ([some c], none)
  | .opens p => ([], some p)
  | .stray => ([none], none)

/-- One byte after what `pending` has read. A byte that cannot continue leaves a hole and is
looked at again as the start of a character. -/
def advance (pending : Option Pending) (b : UInt8) : List (Option Char) × Option Pending :=
  match pending with
  | none => start b
  | some p =>
    if p.lowest ≤ b.toNat ∧ b.toNat ≤ p.highest then
      let value := p.value * 64 + (b.toNat - 0x80)
      if p.missing = 1 then ([some (.ofNat value)], none)
      else ([], some { value, missing := p.missing - 1 })
    else
      let (out, pending) := start b
      (none :: out, pending)

/-- The reading of bytes that follow what `pending` has read. -/
def decodeFrom (pending : Option Pending) : List UInt8 → List (Option Char)
  | [] => if pending.isSome then [none] else []
  | b :: rest => (advance pending b).1 ++ decodeFrom (advance pending b).2 rest

/-- The characters that the bytes spell, with `none` for each ill-formed piece. -/
def decode (bytes : List UInt8) : List (Option Char) := decodeFrom none bytes

/-- All of the symbols, if each is a character. -/
def allChars? : List (Option Char) → Option (List Char)
  | [] => some []
  | none :: _ => none
  | some c :: rest => (allChars? rest).map (c :: ·)

/-- The text of well-formed bytes. -/
def decode? (bytes : List UInt8) : Option (List Char) := allChars? (decode bytes)

/-- The text of any bytes, an ill-formed piece shown as U+FFFD. -/
def decodeLossy (bytes : List UInt8) : List Char := (decode bytes).map (·.getD '\uFFFD')

@[simp] theorem allChars?_map_some (cs : List Char) : allChars? (cs.map some) = some cs := by
  induction cs with
  | nil => rfl
  | cons c rest ih => simp [allChars?, ih]

end Agora.Text.Utf8
