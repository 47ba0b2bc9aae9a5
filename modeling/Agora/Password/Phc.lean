import Agora.Decimal.Integer
import Agora.Text.Base64
import Agora.Text.Split
import Agora.Text.Utf8

/-!
# Texts of stored password digests

A text in PHC form has up to five fields, a dollar sign before each: the name of the algorithm, its
version, parameters, the salt and the digest. All but the name may be missing from the end, version
and parameters also before the salt. Reading settles the grammar alone; what the fields mean is
left to the algorithm.
-/

namespace Agora.Password

open Text (splitAt)

/-- The fields of a text in PHC form. -/
structure Phc where
  algorithm : List Char
  version : Option Nat
  params : List (List Char × List Char)
  salt : Option (List Char)
  digest : Option (List UInt8)
deriving DecidableEq

namespace Phc

/-- Names consist of 1 to 32 small letters, digits and hyphens. -/
def isName (cs : List Char) : Bool :=
  !cs.isEmpty && cs.length ≤ 32 &&
    cs.all fun c => ('a' ≤ c && c ≤ 'z') || ('0' ≤ c && c ≤ '9') || c = '-'

/-- Values consist of at most 64 letters, digits and four further signs. -/
def isValue (cs : List Char) : Bool :=
  cs.length ≤ 64 && cs.all fun c =>
    ('a' ≤ c && c ≤ 'z') || ('A' ≤ c && c ≤ 'Z') || ('0' ≤ c && c ≤ '9') ||
      c = '/' || c = '+' || c = '.' || c = '-'

/-- A number below 2 ^ 32 in digits without leading zeros. -/
def number? (cs : List Char) : Option Nat := do
  let n ← Decimal.nat? cs
  if (cs.head? = some '0' ∧ 1 < cs.length) ∨ 4294967296 ≤ n then none else some n

/-- A name and a value. -/
def param? (cs : List Char) : Option (List Char × List Char) :=
  match splitAt (· = '=') cs with
  | [name, value] => if isName name && isValue value then some (name, value) else none
  | _ => none

/-- Parameters are separated by commas and take up at most 127 bytes. -/
def params? (cs : List Char) : Option (List (List Char × List Char)) :=
  if 127 < (Text.Utf8.encodeChars cs).length then none
  else (splitAt (· = ',') cs).mapM param?

/-- The version, if the next field is one, and the fields that follow. -/
def version? (fields : List (List Char)) : Option (Option Nat × List (List Char)) :=
  match fields with
  | ('v' :: '=' :: number) :: rest =>
    if number.contains ',' then some (none, fields)
    else (number? number).map fun n => (some n, rest)
  | _ => some (none, fields)

/-- The parameters, if the next field holds any, and the fields that follow. -/
def paramsField? (fields : List (List Char)) :
    Option (List (List Char × List Char) × List (List Char)) :=
  match fields with
  | field :: rest =>
    if field.contains '=' then (params? field).map fun ps => (ps, rest) else some ([], fields)
  | [] => some ([], [])

/-- A salt is a value of 4 to 64 characters. -/
def salt? (cs : List Char) : Option (List Char) :=
  if 4 ≤ cs.length && isValue cs then some cs else none

/-- A digest is the Base64 form of 10 to 64 bytes. -/
def digest? (cs : List Char) : Option (List UInt8) := do
  let bytes ← Text.Base64.standard.decode? cs
  if 10 ≤ bytes.length ∧ bytes.length ≤ 64 then some bytes else none

/-- The fields of a text, if it fits the grammar. -/
def read? (cs : List Char) : Option Phc :=
  match splitAt (· = '$') cs with
  | [] :: algorithm :: fields => do
    if !isName algorithm then none
    else
      let (version, fields) ← version? fields
      let (params, fields) ← paramsField? fields
      match fields with
      | [] => some { algorithm, version, params, salt := none, digest := none }
      | [salt] => do
        some { algorithm, version, params, salt := some (← salt? salt), digest := none }
      | [salt, digest] => do
        some { algorithm, version, params, salt := some (← salt? salt),
               digest := some (← digest? digest) }
      | _ => none
  | _ => none

end Phc

end Agora.Password
