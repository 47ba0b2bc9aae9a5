import Agora.Text.Hex

/-!
# The tokens of JSON text

Text is read as a list of symbols, a symbol being a character or a hole where bytes spell none. A
string token carries its text only if all of it can be read: a hole or half of a surrogate pair
makes the text unreadable, but the token still ends where it ends, so that such a string can be
passed over. Whatever starts no token is the token `bad`, and nothing after it is looked at.
-/

namespace Agora.Json

/-- A character, or a hole in ill-formed text. -/
abbrev Symbol := Option Char

inductive Token where
  | openArr
  | closeArr
  | openObj
  | closeObj
  | comma
  | colon
  | null
  | bool (value : Bool)
  | num (literal : List Char)
  | str (text : Option String)
  | bad
deriving DecidableEq, Repr

namespace Token

/-! ## Strings -/

/-- What stands for a character inside a string: a symbol, or an escaped unit of UTF-16. -/
inductive Piece where
  | symbol (s : Symbol)
  | unit (n : Nat)

/-- The character named by a one-letter escape. -/
def escaped? (c : Char) : Option Char :=
  if c = '"' ∨ c = '\\' ∨ c = '/' then some c
  else if c = 'b' then some '\x08'
  else if c = 'f' then some '\x0c'
  else if c = 'n' then some '\n'
  else if c = 'r' then some '\r'
  else if c = 't' then some '\t'
  else none

/-- The unit of four hexadecimal digits. -/
def unit? (a b c d : Symbol) : Option Nat := do
  let a ← Text.Hex.value? (← a)
  let b ← Text.Hex.value? (← b)
  let c ← Text.Hex.value? (← c)
  let d ← Text.Hex.value? (← d)
  return ((a * 16 + b) * 16 + c) * 16 + d

/-- The pieces up to the closing quote, and what follows it. An unknown escape, a raw control or
the end of the text breaks the string off. -/
def pieces? : List Symbol → Option (List Piece × List Symbol)
  | [] => none
  | some '"' :: rest => some ([], rest)
  | some '\\' :: some 'u' :: a :: b :: c :: d :: rest => do
    let n ← unit? a b c d
    let (ps, rest) ← pieces? rest
    return (.unit n :: ps, rest)
  | some '\\' :: some c :: rest => do
    let c ← escaped? c
    let (ps, rest) ← pieces? rest
    return (.symbol (some c) :: ps, rest)
  | some c :: rest =>
    if c.toNat < 0x20 ∨ c = '\\' then none
    else do
      let (ps, rest) ← pieces? rest
      return (.symbol (some c) :: ps, rest)
  | none :: rest => do
    let (ps, rest) ← pieces? rest
    return (.symbol none :: ps, rest)

/-- The text of the pieces: two units of a surrogate pair make one character, half of a pair
makes none. -/
def text? : List Piece → Option (List Char)
  | [] => some []
  | .symbol s :: rest => do return (← s) :: (← text? rest)
  | .unit n :: rest =>
    if n < 0xD800 ∨ 0xE000 ≤ n then do return .ofNat n :: (← text? rest)
    else match rest with
      | .unit m :: rest =>
        if n < 0xDC00 ∧ 0xDC00 ≤ m ∧ m < 0xE000 then do
          return .ofNat (0x10000 + (n - 0xD800) * 0x400 + (m - 0xDC00)) :: (← text? rest)
        else none
      | _ => none

/-! ## Numbers -/

/-- The digits at the start, and the rest. -/
def spanDigits (cs : List Symbol) : List Char × List Symbol :=
  let isDigit : Symbol → Bool := fun s => s.any fun c => '0' ≤ c && c ≤ '9'
  ((cs.takeWhile isDigit).reduceOption, cs.dropWhile isDigit)

/-- One or more digits. -/
def digits? (cs : List Symbol) : Option (List Char × List Symbol) :=
  if (spanDigits cs).1.isEmpty then none else some (spanDigits cs)

/-- The fraction of a number with its point, if a point comes next. -/
def fraction? : List Symbol → Option (List Char × List Symbol)
  | some '.' :: cs => (digits? cs).map fun r => ('.' :: r.1, r.2)
  | cs => some ([], cs)

/-- The exponent of a number with its letter, if one comes next. A plus sign is left out. -/
def power? : List Symbol → Option (List Char × List Symbol)
  | some 'e' :: some '-' :: cs | some 'E' :: some '-' :: cs =>
    (digits? cs).map fun r => ('e' :: '-' :: r.1, r.2)
  | some 'e' :: some '+' :: cs | some 'E' :: some '+' :: cs
  | some 'e' :: cs | some 'E' :: cs => (digits? cs).map fun r => ('e' :: r.1, r.2)
  | cs => some ([], cs)

/-- A number without its sign: no digit stands after a leading zero. -/
def magnitude? (cs : List Symbol) : Option (List Char × List Symbol) := do
  let (before, cs) ← digits? cs
  if before.head? = some '0' ∧ 1 < before.length then none
  else
    let (after, cs) ← fraction? cs
    let (power, cs) ← power? cs
    return (before ++ after ++ power, cs)

/-! ## Tokens -/

/-- The blanks of JSON: space, tab, line feed and carriage return. -/
def isBlank (s : Symbol) : Bool :=
  s = some ' ' || s = some '\t' || s = some '\n' || s = some '\r'

/-- The token at the start of a text without leading blanks, and the rest. -/
def head : List Symbol → Token × List Symbol
  | some '[' :: cs => (.openArr, cs)
  | some ']' :: cs => (.closeArr, cs)
  | some '\x7b' :: cs => (.openObj, cs)
  | some '\x7d' :: cs => (.closeObj, cs)
  | some ',' :: cs => (.comma, cs)
  | some ':' :: cs => (.colon, cs)
  | some 'n' :: some 'u' :: some 'l' :: some 'l' :: cs => (.null, cs)
  | some 't' :: some 'r' :: some 'u' :: some 'e' :: cs => (.bool true, cs)
  | some 'f' :: some 'a' :: some 'l' :: some 's' :: some 'e' :: cs => (.bool false, cs)
  | some '"' :: cs =>
    match pieces? cs with
    | some (ps, cs) => (.str ((text? ps).map String.ofList), cs)
    | none => (.bad, [])
  | some '-' :: cs =>
    match magnitude? cs with
    | some (ds, cs) => (.num ('-' :: ds), cs)
    | none => (.bad, [])
  | cs =>
    match magnitude? cs with
    | some (ds, cs) => (.num ds, cs)
    | none => (.bad, [])

/-- The tokens of a text, of which there are at most as many as `limit`. -/
def listUpTo (limit : Nat) (cs : List Symbol) : List Token :=
  match limit with
  | 0 => []
  | n + 1 =>
    match cs.dropWhile isBlank with
    | [] => []
    | cs => (head cs).1 :: listUpTo n (head cs).2

/-- The tokens of a text; every token takes at least one symbol, but `bad` ends the list. -/
def list (cs : List Symbol) : List Token := listUpTo cs.length cs

end Token

end Agora.Json
