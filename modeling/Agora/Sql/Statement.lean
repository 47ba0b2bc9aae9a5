import Agora.Decimal.Integer
import Agora.Time.Rfc3339

/-!
# Statements with bound values

A statement is a list of pieces, fixed text and values. In its text the values are represented by
the placeholders `$1`, `$2` and so on, in their order, so that no value can be read as part of the
statement.
-/

namespace Agora.Sql

/-- A value that is bound to a placeholder, or stands in a row. -/
inductive Value where
  | null
  | bool (value : Bool)
  | int (value : Int)
  | text (value : String)
  | texts (values : List String)
  | time (value : Time.Instant)
deriving DecidableEq

/-- A piece of a statement. -/
inductive Piece where
  | text (text : String)
  | bind (value : Value)
deriving DecidableEq

abbrev Statement := List Piece

namespace Statement

/-- The text of the pieces, the next placeholder having the number `n`. -/
def textFrom (n : Nat) : Statement → List Char
  | [] => []
  | .text text :: rest => text.toList ++ textFrom n rest
  | .bind _ :: rest => '$' :: Decimal.ofNat n ++ textFrom (n + 1) rest

/-- The text of a statement. -/
def text (s : Statement) : String := String.ofList (textFrom 1 s)

/-- The values in the order of their placeholders. -/
def binds : Statement → List Value
  | [] => []
  | .text _ :: rest => binds rest
  | .bind value :: rest => value :: binds rest

end Statement

end Agora.Sql
