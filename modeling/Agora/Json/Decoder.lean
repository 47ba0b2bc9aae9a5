import Agora.Decimal.Integer
import Agora.Json.Number
import Agora.Json.Scan
import Agora.Time.Rfc3339

/-!
# Values of certain types in a scan

A decoder looks for a value of one type. It fails in one of two ways: the text is no JSON where the
decoder looks (`malformed`), or it is JSON of another shape (`mismatch`). Of two defects the one
that comes first in the text is reported. A value of the wrong type is looked at only as far as it
is one token; an array or object in place of a single value is a mismatch whatever it holds.

A record is an object, of which unknown members are passed over, or an array of all its fields in
their order.
-/

namespace Agora.Json

/-- Why a value could not be had from a scan. -/
inductive Defect where
  | malformed
  | mismatch
deriving DecidableEq, Repr

/-- Looks for a value of a type. -/
abbrev Decoder (α : Type) := Scan → Except Defect α

namespace Scan

mutual

/-- Nothing is broken off anywhere in the value, so that it can be passed over. Strings and names
in it need not be readable: nobody reads them. -/
def isComplete : Scan → Bool
  | .broken => false
  | .arr items => areComplete items
  | .obj members => haveComplete members
  | .null | .bool _ | .num _ | .str _ => true

/-- `isComplete` on the items of an array. -/
def areComplete : List Scan → Bool
  | [] => true
  | item :: rest => isComplete item && areComplete rest

/-- `isComplete` on the members of an object. -/
def haveComplete : List (Option String × Scan) → Bool
  | [] => true
  | (_, value) :: rest => isComplete value && haveComplete rest

end

mutual

/-- Every string can be read, every number is in range, and at most `depth` arrays and objects
stand in each other: the value can be kept for later. -/
def isReadable (depth : Nat) : Scan → Bool
  | .broken => false
  | .arr items => match depth with
    | 0 => false
    | d + 1 => areReadable d items
  | .obj members => match depth with
    | 0 => false
    | d + 1 => haveReadable d members
  | .num literal => !Number.isOutOfRange literal
  | .str text => text.isSome
  | .null | .bool _ => true

/-- `isReadable` on the items of an array. -/
def areReadable (depth : Nat) : List Scan → Bool
  | [] => true
  | item :: rest => isReadable depth item && areReadable depth rest

/-- `isReadable` on the members of an object. -/
def haveReadable (depth : Nat) : List (Option String × Scan) → Bool
  | [] => true
  | (name, value) :: rest => name.isSome && isReadable depth value && haveReadable depth rest

end

/-- The fault of a value where one of another type is wanted. -/
def unwanted : Scan → Defect
  | .broken | .str none => .malformed
  | .num literal => if Number.isOutOfRange literal then .malformed else .mismatch
  | _ => .mismatch

end Scan

namespace Decoder

/-! ## Single values -/

def string : Decoder String
  | .str (some s) => .ok s
  | scan => .error scan.unwanted

def bool : Decoder Bool
  | .bool b => .ok b
  | scan => .error scan.unwanted

/-- A whole number in the given range. -/
def integer (low high : Int) : Decoder Int
  | .num literal =>
    match Number.whole? literal with
    | some n => if low ≤ n ∧ n ≤ high then .ok n else .error .mismatch
    | none => .error (Scan.num literal).unwanted
  | scan => .error scan.unwanted

/-- A whole number that fits into a signed word of 64 bits. -/
def int64 : Decoder Int := integer (-9223372036854775808) 9223372036854775807

/-- A whole number that fits into a signed word of 32 bits. -/
def int32 : Decoder Int := integer (-2147483648) 2147483647

/-- The same, as a word. -/
def word32 : Decoder Int32 := fun scan => (int32 scan).map .ofInt

/-- A whole number that fits into an unsigned word of 64 bits. -/
def uint64 : Decoder UInt64 := fun scan =>
  (integer 0 18446744073709551615 scan).map fun n => .ofNat n.toNat

/-- An instant, in the wider of the two formats that are read. -/
def instant : Decoder Time.Instant := fun scan => do
  match Time.Instant.readLoose? (← string scan).toList with
  | some t => .ok t
  | none => .error .mismatch

/-- Null for no value. -/
def optional {α : Type} (decode : Decoder α) : Decoder (Option α)
  | .null => .ok none
  | scan => (decode scan).map some

/-- The items in order. -/
def items {α : Type} (decode : Decoder α) : List Scan → Except Defect (List α)
  | [] => .ok []
  | item :: rest => do return (← decode item) :: (← items decode rest)

/-- An array of any length. -/
def list {α : Type} (decode : Decoder α) : Decoder (List α)
  | .arr scans => items decode scans
  | scan => .error scan.unwanted

/-! ## Records -/

/-- A field of a record. A `trailing` field may be missing at the end of an array. -/
structure Field where
  name : String
  check : Decoder Unit
  trailing : Bool := false

/-- A field whose value is found by a decoder. -/
def Field.of {α : Type} (name : String) (decode : Decoder α) : Field :=
  { name, check := fun scan => (decode scan).map fun _ => () }

/-- The values of known names. A name given twice is a mismatch, before its second value is looked
at. -/
def named (fields : List Field) (seen : List String) :
    List (Option String × Scan) → Except Defect (List (String × Scan))
  | [] => .ok []
  | (none, _) :: _ => .error .malformed
  | (some name, value) :: rest =>
    match fields.find? (·.name == name) with
    | none => if value.isComplete then named fields seen rest else .error .malformed
    | some known =>
      if seen.contains name then .error .mismatch
      else do
        known.check value
        return (name, value) :: (← named fields (name :: seen) rest)

/-- The values of an array of all fields. -/
def positional : List Field → List Scan → Except Defect (List (String × Scan))
  | [], [] => .ok []
  | [], _ :: _ => .error .malformed
  | missing :: fields, [] => if missing.trailing then positional fields [] else .error .mismatch
  | next :: fields, item :: rest => do
    next.check item
    return (next.name, item) :: (← positional fields rest)

/-- The values of the fields of a record, each of the type that its field asks for. -/
def record (fields : List Field) : Decoder (List (String × Scan))
  | .obj members => named fields [] members
  | .arr scans => positional fields scans
  | scan => .error scan.unwanted

/-- The value of a field that has to be there. -/
def required {α : Type} (values : List (String × Scan)) (name : String) (decode : Decoder α) :
    Except Defect α :=
  match values.lookup name with
  | some value => decode value
  | none => .error .mismatch

/-- The value of a field, or the given one if the field is missing. -/
def orElse {α : Type} (values : List (String × Scan)) (name : String) (decode : Decoder α)
    (default : α) : Except Defect α :=
  match values.lookup name with
  | some value => decode value
  | none => .ok default

end Decoder

end Agora.Json
