import Agora.Digest.Argon2
import Agora.Password.Phc

/-!
# Storing and checking passwords

A scheme turns a password and a salt into a text that can be stored, and checks a password against
such a text. Accounts work with any scheme; `argon2` is the one that is used. It makes digests of
one kind and cost, and checks those of every kind, version and cost that their texts name.
-/

namespace Agora.Password

/-- A way to store passwords. -/
structure Scheme where
  /-- The text to store for a password, made with a salt. -/
  store : List UInt8 → String → String
  /-- Whether the password fits a stored text; none if the text cannot be one. -/
  check? : String → String → Option Bool

namespace Argon2

open Digest.Argon2 (Cost Kind Version)

def kind? (name : List Char) : Option Kind :=
  if name = "argon2d".toList then some .d
  else if name = "argon2i".toList then some .i
  else if name = "argon2id".toList then some .id
  else none

/-- Without a version the newer one is meant. -/
def version? : Option Nat → Option Version
  | none | some 19 => some .v19
  | some 16 => some .v16
  | some _ => none

/-- What the parameters of a text set. -/
structure Setting where
  cost : Cost := ⟨19456, 2, 1⟩
  data : List UInt8 := []
deriving DecidableEq

/-- At most `size` bytes in Base64. -/
def bytes? (size : Nat) (value : List Char) : Option (List UInt8) :=
  (Text.Base64.standard.decode? value).filter (·.length ≤ size)

/-- One more parameter. The name of a key is read and not used. -/
def Setting.put? (s : Setting) (param : List Char × List Char) : Option Setting :=
  let (name, value) := param
  if name = ['m'] then
    (Phc.number? value).map fun n => { s with cost := { s.cost with memory := n } }
  else if name = ['t'] then
    (Phc.number? value).map fun n => { s with cost := { s.cost with passes := n } }
  else if name = ['p'] then
    (Phc.number? value).map fun n => { s with cost := { s.cost with lanes := n } }
  else if name = "keyid".toList then (bytes? 8 value).map fun _ => s
  else if name = "data".toList then (bytes? 32 value).map fun data => { s with data }
  else none

/-- The costs that can be paid: every lane needs eight blocks. -/
def isPayable (c : Cost) : Bool :=
  8 ≤ c.memory && 1 ≤ c.passes && 1 ≤ c.lanes && c.lanes ≤ 16777215 && 8 * c.lanes ≤ c.memory

/-- The digest of a password under what a text names, if that makes sense. -/
def digest? (text : Phc) (salt : List Char) (size : Nat) (password : String) :
    Option (List UInt8) := do
  let setting ← text.params.foldlM Setting.put? {}
  let kind ← kind? text.algorithm
  let version ← version? text.version
  let salt ← (Text.Base64.standard.decode? salt).filter (8 ≤ ·.length)
  if isPayable setting.cost then
    some (Digest.Argon2.hash kind version setting.cost size (Text.Utf8.encode password) salt
      setting.data)
  else none

/-- A text without salt or digest fits no password. -/
def fits (text : Phc) (password : String) : Bool :=
  match text.salt, text.digest with
  | some salt, some digest => digest? text salt digest.length password = some digest
  | _, _ => false

/-- How new digests are made, as it stands in their texts before the salt. -/
def label : String := "$argon2id$v=19$m=19456,t=2,p=1"

/-- The text for a new password: a digest of 32 bytes. -/
def store (salt : List UInt8) (password : String) : String :=
  let digest := Digest.Argon2.hash .id .v19 ⟨19456, 2, 1⟩ 32 (Text.Utf8.encode password) salt []
  label ++ "$" ++ String.ofList (Text.Base64.standard.encode salt) ++ "$" ++
    String.ofList (Text.Base64.standard.encode digest)

end Argon2

/-- The scheme in use. -/
def Scheme.argon2 : Scheme where
  store := Argon2.store
  check? stored password := (Phc.read? stored.toList).map fun text => Argon2.fits text password

end Agora.Password
