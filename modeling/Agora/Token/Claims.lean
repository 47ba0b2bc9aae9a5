import Agora.Json.Decoder
import Agora.Json.Value

/-!
# Claims

What a session token says: whom it is about, for whom and by whom it was made, and between which
two seconds, counted from the start of 1970, it is valid.
-/

namespace Agora.Token

open Json (Decoder Defect Scan)

structure Claims where
  subject : String
  audience : String
  issuer : String
  issuedAt : UInt64
  notBefore : UInt64
  expiresAt : UInt64
deriving DecidableEq

namespace Claims

def toJson (c : Claims) : Json :=
  .obj [("sub", .str c.subject), ("aud", .str c.audience), ("iss", .str c.issuer),
    ("iat", .int c.issuedAt.toNat), ("nbf", .int c.notBefore.toNat),
    ("exp", .int c.expiresAt.toNat)]

def fields : List Decoder.Field :=
  [.of "sub" .string, .of "aud" .string, .of "iss" .string, .of "iat" .uint64,
    .of "nbf" .uint64, .of "exp" .uint64]

def ofValues (values : List (String × Scan)) : Except Defect Claims := do
  return {
    subject := ← Decoder.required values "sub" .string
    audience := ← Decoder.required values "aud" .string
    issuer := ← Decoder.required values "iss" .string
    issuedAt := ← Decoder.required values "iat" .uint64
    notBefore := ← Decoder.required values "nbf" .uint64
    expiresAt := ← Decoder.required values "exp" .uint64 }

/-- Claims are always an object. -/
def decode : Decoder Claims
  | .obj members => do ofValues (← Decoder.named fields [] members)
  | scan => .error scan.unwanted

/-- The subject as the id of a user. -/
def subjectId? (c : Claims) : Option Int := Decimal.int64? c.subject.toList

end Claims

end Agora.Token
