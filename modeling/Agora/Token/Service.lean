import Agora.Digest.Sha256
import Agora.Ending
import Agora.Text.Base64
import Agora.Text.Split
import Agora.Token.Claims
import Agora.Token.Header

/-!
# Session tokens

A token is three parts joined by points: header and claims, each as JSON in Base64, and a
signature of the two under a secret. Issuing writes the one header there is. Validation accepts any
header that names the same algorithm, compares signatures as texts, and then asks whether the
claims hold now and are meant for this service.
-/

namespace Agora.Token

/-- Why a token was not issued or not accepted. -/
inductive TokenError where
  | emptySecret
  | clockBeforeEpoch
  | malformed
  | expired
  | notYetValid
  | wrongAudience
  | wrongIssuer
  | wrongAlgorithm
  | badSignature
deriving DecidableEq, Repr

def TokenError.message : TokenError → String
  | .emptySecret => "token could not be signed: signing secret is empty"
  | .clockBeforeEpoch =>
    "token could not be signed: Failed to get current time: " ++
      "second time provided was later than self"
  | .malformed => "token is malformed"
  | .expired => "token has expired"
  | .notYetValid => "token is not valid yet"
  | .wrongAudience => "token audience does not match"
  | .wrongIssuer => "token issuer does not match"
  | .wrongAlgorithm => "token was signed with a disallowed algorithm"
  | .badSignature => "token signature is invalid"

/-- What tokens are made with. -/
structure Config where
  secret : String
  audience : String
  issuer : String
  /-- The seconds for which a token is valid. -/
  lifetime : UInt64
deriving DecidableEq

/-- A service signs with a secret that is not empty. -/
structure Service extends Config where
  secret_ne : secret ≠ ""

def Config.service (c : Config) : Except TokenError Service :=
  if h : c.secret = "" then .error .emptySecret else .ok { c with secret_ne := h }

/-- The seconds since the start of 1970, if the clock does not stand before it. -/
def seconds? (now : Time.Instant) : Option UInt64 :=
  if 0 ≤ now.second then some (.ofNat now.second.toNat) else none

/-- The text of the header of every token that is issued. -/
def headerText : Json := .obj [("typ", .str "JWT"), ("alg", .str Algorithm.hs256.name)]

/-- The Base64 form of a text. -/
def segment (cs : List Char) : List Char :=
  Text.Base64.urlSafe.encode (Text.Utf8.encodeChars cs)

/-- The document in a segment. -/
def document? (cs : List Char) : Option Json.Scan :=
  (Text.Base64.urlSafe.decode? cs).map Json.Scan.ofBytes

/-- The value that a decoder finds in a segment. -/
def read {α : Type} (decode : Json.Decoder α) (cs : List Char) : Except TokenError α :=
  match (document? cs).map decode with
  | some (.ok a) => .ok a
  | _ => .error .malformed

namespace Service

variable (s : Service)

/-- The signature of header and claims. -/
def signature (message : List Char) : List Char :=
  Text.Base64.urlSafe.encode
    (Digest.Sha256.hmac (Text.Utf8.encode s.secret) (Text.Utf8.encodeChars message))

/-- The token that carries the claims. -/
def sign (c : Claims) : String :=
  let message := segment headerText.render ++ '.' :: segment c.toJson.render
  String.ofList (message ++ '.' :: s.signature message)

/-- The sum of two words, if it is one. -/
def sum? (a b : UInt64) : Option UInt64 :=
  if a.toNat + b.toNat < 18446744073709551616 then some (a + b) else none

/-- The claims of a token that is issued at a second, if it ends at one. -/
def claims? (second : UInt64) (subject : Int) (audience issuer : String) (lifetime : UInt64) :
    Option Claims :=
  (sum? second lifetime).map fun expiresAt => {
    subject := Decimal.text subject, audience, issuer, issuedAt := second, notBefore := second
    expiresAt }

/-- A token about a subject. The clock is read first; issuing is given up if the token would end
after the last second there is. -/
def issue (now : Time.Instant) (subject : Int) (audience issuer : String) (lifetime : UInt64) :
    Except (Stop TokenError) String :=
  match seconds? now with
  | none => .error (.refused .clockBeforeEpoch)
  | some second =>
    match claims? second subject audience issuer lifetime with
    | some c => .ok (s.sign c)
    | none => .error .abandoned

/-- A token about a subject with the audience, issuer and lifetime of the service. -/
def issueFor (now : Time.Instant) (subject : Int) : Except (Stop TokenError) String :=
  s.issue now subject s.audience s.issuer s.lifetime

/-- The claims of a token that the service may have signed. -/
def verify (token : String) : Except TokenError Claims :=
  match Text.splitAt (· = '.') token.toList with
  | [head, body, signature] => do
    let algorithm ← read header head
    if algorithm ≠ .hs256 then .error .wrongAlgorithm
    else if signature ≠ s.signature (head ++ '.' :: body) then .error .badSignature
    else read Claims.decode body
  | _ => .error .malformed

/-- The claims hold at a second and are meant for the service. -/
def accept (second : UInt64) (c : Claims) : Except TokenError Claims :=
  if c.expiresAt < second then .error .expired
  else if second < c.notBefore then .error .notYetValid
  else if c.issuer ≠ s.issuer then .error .wrongIssuer
  else if c.audience ≠ s.audience then .error .wrongAudience
  else .ok c

/-- The claims of a token that is valid at a second. -/
def validateAt (second : UInt64) (token : String) : Except TokenError Claims := do
  s.accept second (← s.verify token)

/-- The claims of a token that is valid now. -/
def validate (now : Time.Instant) (token : String) : Except TokenError Claims := do
  let c ← s.verify token
  match seconds? now with
  | some second => s.accept second c
  | none => .error .clockBeforeEpoch

end Service

end Agora.Token
