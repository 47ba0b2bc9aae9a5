/-!
# Whole numbers in decimal digits

Writing is without leading zeros. Reading takes an optional single sign and one or more ASCII
digits, any number of leading zeros included. A number that has to fit into a word is read in such
words, and the reader gives up at the first step that overflows, so that no number is ever cut to
fit.
-/

namespace Agora.Decimal

/-- The digit of a number below ten. -/
def digit (n : Nat) : Char := .ofNat (48 + n)

/-- The digits of a number, most significant first. -/
def ofNat (n : Nat) : List Char :=
  if n < 10 then [digit n] else ofNat (n / 10) ++ [digit (n % 10)]
termination_by n

/-- A number with a minus sign if it is negative. -/
def ofInt (n : Int) : List Char :=
  if n < 0 then '-' :: ofNat n.natAbs else ofNat n.natAbs

/-- The text of a whole number. -/
def text (n : Int) : String := String.ofList (ofInt n)

/-- Exactly `width` digits, with zeros in front or the high digits left out. -/
def padded (width n : Nat) : List Char :=
  match width with
  | 0 => []
  | w + 1 => padded w (n / 10) ++ [digit (n % 10)]

/-- The value of a digit. -/
def digit? (c : Char) : Option Nat :=
  if '0' ≤ c ∧ c ≤ '9' then some (c.toNat - 48) else none

/-- The number that `acc` followed by the digits stands for. -/
def natFrom? (acc : Nat) : List Char → Option Nat
  | [] => some acc
  | c :: rest => do natFrom? (acc * 10 + (← digit? c)) rest

/-- A number of one or more digits. -/
def nat? (cs : List Char) : Option Nat := if cs.isEmpty then none else natFrom? 0 cs

/-- A whole number with an optional sign. -/
def int? : List Char → Option Int
  | '-' :: rest => (nat? rest).map fun n => -(n : Int)
  | '+' :: rest => (nat? rest).map Int.ofNat
  | cs => (nat? cs).map Int.ofNat

/-- The numbers that fit into a signed word of 64 bits. -/
def FitsInt64 (n : Int) : Prop := -9223372036854775808 ≤ n ∧ n ≤ 9223372036854775807

instance (n : Int) : Decidable (FitsInt64 n) := inferInstanceAs (Decidable (_ ∧ _))

/-- The numbers that fit into a signed word of 32 bits. -/
def FitsInt32 (n : Int) : Prop := -2147483648 ≤ n ∧ n ≤ 2147483647

instance (n : Int) : Decidable (FitsInt32 n) := inferInstanceAs (Decidable (_ ∧ _))

/-- A number below `bound`, with an optional plus sign. -/
def below? (bound : Nat) (cs : List Char) : Option Nat :=
  (nat? (match cs with | '+' :: rest => rest | _ => cs)).filter (· < bound)

/-! ## Reading in words

The digits of a number below zero are taken away one by one, since the lowest word has no opposite
among the words.
-/

inductive Sign where
  | plus
  | minus

/-- A word moved away from zero on the side of a sign, unless that overflows. -/
def Sign.move? (acc d : Int64) : Sign → Option Int64
  | .plus => if acc.toBitVec.saddOverflow d.toBitVec then none else some (acc + d)
  | .minus => if acc.toBitVec.ssubOverflow d.toBitVec then none else some (acc - d)

/-- Ten times a word, unless that overflows. -/
def timesTen? (acc : Int64) : Option Int64 :=
  if acc.toBitVec.smulOverflow (10 : Int64).toBitVec then none else some (acc * 10)

/-- A word with one more digit behind it, unless that overflows. -/
def Sign.push? (sign : Sign) (acc : Int64) (d : Nat) : Option Int64 := do
  sign.move? (← timesTen? acc) (.ofNat d)

/-- The word that `acc` followed by the digits stands for. -/
def wordFrom? (sign : Sign) (acc : Int64) : List Char → Option Int64
  | [] => some acc
  | c :: rest => do wordFrom? sign (← sign.push? acc (← digit? c)) rest

/-- The word of one or more digits behind a sign. -/
def word? (sign : Sign) (cs : List Char) : Option Int64 :=
  if cs.isEmpty then none else wordFrom? sign 0 cs

/-- A whole number that fits into a signed word of 64 bits. -/
def int64? : List Char → Option Int
  | '-' :: rest => (word? .minus rest).map Int64.toInt
  | '+' :: rest => (word? .plus rest).map Int64.toInt
  | cs => (word? .plus cs).map Int64.toInt

end Agora.Decimal
