import Agora.Json.Decoder

/-!
# Token headers

A header names the algorithm that a token is signed with. Its other registered members may be
missing, but have to be of their types; unregistered ones are passed over. One of the registered
members describes a public key, which is looked at only as far as it has to be a key.
-/

namespace Agora.Token

open Json (Decoder Defect Scan)

/-- The algorithms that tokens may name. -/
inductive Algorithm where
  | hs256
  | hs384
  | hs512
  | es256
  | es384
  | rs256
  | rs384
  | rs512
  | ps256
  | ps384
  | ps512
  | edDSA
deriving DecidableEq, Repr

namespace Algorithm

def all : List Algorithm :=
  [.hs256, .hs384, .hs512, .es256, .es384, .rs256, .rs384, .rs512, .ps256, .ps384, .ps512, .edDSA]

def name : Algorithm → String
  | .hs256 => "HS256"
  | .hs384 => "HS384"
  | .hs512 => "HS512"
  | .es256 => "ES256"
  | .es384 => "ES384"
  | .rs256 => "RS256"
  | .rs384 => "RS384"
  | .rs512 => "RS512"
  | .ps256 => "PS256"
  | .ps384 => "PS384"
  | .ps512 => "PS512"
  | .edDSA => "EdDSA"

def ofName? (name : String) : Option Algorithm := all.find? (·.name == name)

end Algorithm

/-- What may stand beside a name that needs no value: null. -/
def isNull : Scan → Bool
  | .null => true
  | _ => false

/-- Null, or an object without members. -/
def isNothing : Scan → Bool
  | .null | .obj [] => true
  | _ => false

/-- One of some names: a string, or an object with the name as its only member and a value that
says no more. -/
def nameOf (saysNoMore : Scan → Bool) (names : List String) : Decoder String := fun scan =>
  let name : Except Defect String := match scan with
    | .obj [(some name, value)] => if saysNoMore value then .ok name else .error .mismatch
    | scan => Decoder.string scan
  name.bind fun name => if names.contains name then .ok name else .error .mismatch

def algorithm : Decoder Algorithm := fun scan => do
  match Algorithm.ofName? (← nameOf isNull (Algorithm.all.map Algorithm.name) scan) with
  | some a => .ok a
  | none => .error .mismatch

/-! ## Keys -/

/-- The members that every description of a key may have. -/
def keyFields : List Decoder.Field :=
  [.of "use" (.optional .string), .of "key_ops" (.optional (.list .string)),
    .of "alg" (.optional (nameOf isNothing (Algorithm.all.map Algorithm.name ++
      ["RSA1_5", "RSA-OAEP", "RSA-OAEP-256"]))),
    .of "kid" (.optional .string), .of "x5u" (.optional .string),
    .of "x5c" (.optional (.list .string)), .of "x5t" (.optional .string),
    .of "x5t#S256" (.optional .string)]

def curve : Decoder String := nameOf isNull ["P-256", "P-384", "P-521", "Ed25519"]

/-- The further members of each type of key, all of which have to be there. -/
def keyTypes : List (List Decoder.Field) :=
  [[.of "kty" (nameOf isNull ["EC"]), .of "crv" curve, .of "x" .string, .of "y" .string],
    [.of "kty" (nameOf isNull ["RSA"]), .of "n" .string, .of "e" .string],
    [.of "kty" (nameOf isNull ["oct"]), .of "k" .string],
    [.of "kty" (nameOf isNull ["OKP"]), .of "crv" curve, .of "x" .string]]

/-- The members are those of a type of key. -/
def areOfType (members : List (Option String × Scan)) (fields : List Decoder.Field) : Bool :=
  match Decoder.named fields [] members with
  | .ok values => values.length = fields.length
  | .error _ => false

/-- The description of a key: all of it readable, the common members of their types, the others
those of one type of key. -/
def key : Decoder Unit
  | .obj members => do
    if !Scan.haveReadable 125 members then .error .malformed
    else
      let _ ← Decoder.named keyFields [] members
      let others := members.filter fun member =>
        !keyFields.any fun field => some field.name == member.1
      if keyTypes.any (areOfType others) then .ok () else .error .mismatch
  | scan => .error scan.unwanted

/-! ## Headers -/

def headerFields : List Decoder.Field :=
  [.of "typ" (.optional .string), .of "alg" algorithm, .of "cty" (.optional .string),
    .of "jku" (.optional .string), .of "jwk" (.optional key), .of "kid" (.optional .string),
    .of "x5u" (.optional .string), .of "x5c" (.optional (.list .string)),
    .of "x5t" (.optional .string), .of "x5t#S256" (.optional .string)]

/-- The algorithm that a header names. -/
def header : Decoder Algorithm := fun scan => do
  Decoder.required (← Decoder.record headerFields scan) "alg" algorithm

end Agora.Token
