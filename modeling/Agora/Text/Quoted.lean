import Agora.Text.Hex
import Agora.Text.LowerCase
import Agora.Text.PrintTable

/-!
# Quoted text in messages

How a message shows a piece of input that it refuses: between double quotes, with a backslash
before quotes and backslashes, short names for the common controls, and the code point in braces
for whatever has no visible form of its own.
-/

namespace Agora.Text.Quoted

/-- The hexadecimal digits of a number, at least one. -/
def hexDigits (n : Nat) : List Char :=
  if n < 16 then [Hex.digit n] else hexDigits (n / 16) ++ [Hex.digit (n % 16)]
termination_by n

/-- One character between the quotes. -/
def escapeChar (c : Char) : List Char :=
  if c = '\x00' then ['\\', '0']
  else if c = '\t' then ['\\', 't']
  else if c = '\r' then ['\\', 'r']
  else if c = '\n' then ['\\', 'n']
  else if c = '"' ∨ c = '\\' then ['\\', c]
  else if inRanges PrintTable.invisible c || inRanges PrintTable.combining c then
    ['\\', 'u', '\x7b'] ++ hexDigits c.toNat ++ ['\x7d']
  else [c]

/-- The text between double quotes, every character escaped where needed. -/
def quote (cs : List Char) : List Char := '"' :: cs.flatMap escapeChar ++ ['"']

end Agora.Text.Quoted
