import Agora.Account.Error
import Agora.Account.Validation
import Agora.Account.World
import Agora.Digest.Sha256
import Agora.Json.Decoder
import Agora.Password.Scheme
import Agora.Text.Blank
import Agora.Text.LowerCase
import Agora.Text.Uuid
import Agora.Token.Service

/-!
# Registration, activation and log-in

A registration makes an inactive account and mails the token of an invitation; the store keeps the
token's digest only. If the mail cannot be sent the account is removed again. Activation takes up
an invitation. An active account's email and password are exchanged for a session token.

What is random comes as an argument; how passwords are stored is a parameter of the service, and so
is the kind of store `σ` that keeps the accounts.
-/

namespace Agora.Account

open Json (Decoder Scan)

/-- What an account is asked for with. -/
structure Registration where
  username : String
  email : String
  password : String
deriving DecidableEq

/-- What a session token is asked for with. -/
structure Credentials where
  email : String
  password : String
deriving DecidableEq

namespace Registration

def fields : List Decoder.Field :=
  [.of "username" .string, .of "email" .string, .of "password" .string]

def decode : Decoder Registration := fun scan => do
  let values ← Decoder.record fields scan
  return {
    username := ← Decoder.required values "username" .string
    email := ← Decoder.required values "email" .string
    password := ← Decoder.required values "password" .string }

end Registration

namespace Credentials

def fields : List Decoder.Field := [.of "email" .string, .of "password" .string]

def decode : Decoder Credentials := fun scan => do
  let values ← Decoder.record fields scan
  return {
    email := ← Decoder.required values "email" .string
    password := ← Decoder.required values "password" .string }

end Credentials

/-- A new account with the token that activates it. -/
structure Registered where
  user : User
  token : String
deriving DecidableEq

def Registered.toJson (r : Registered) : Json :=
  .obj [("user", r.user.toJson), ("token", .str r.token)]

/-- The random bytes of one registration: the salt of the password and the token. -/
structure Fresh where
  salt : List UInt8
  token : List UInt8
deriving DecidableEq

/-- What the service works with. -/
structure Service where
  scheme : Password.Scheme
  /-- A stored text that no account has. -/
  decoy : String
  tokens : Token.Service
  /-- The seconds for which an invitation is valid. -/
  invitationLifetime : UInt64
  frontendUrl : String
  sandbox : Bool

/-- The digest under which the token of an invitation is stored. -/
def tokenDigest (token : String) : String :=
  Text.Hex.encode (Digest.Sha256.hash (Text.Utf8.encode token))

/-- The form of an email that is stored and looked up. -/
def normalEmail (email : String) : String := Text.lowered (Text.trimmed email)

/-- The lifetime as a signed number of seconds, the upper half of the range being negative. -/
def signedLifetime (lifetime : UInt64) : Int :=
  if lifetime.toNat < 9223372036854775808 then lifetime.toNat
  else (lifetime.toNat : Int) - 18446744073709551616

/-- When an invitation expires that is made now, if the clock does not stand before 1970 and there
is such a time. -/
def expiry? (now : Time.Instant) (lifetime : UInt64) : Option Time.Instant :=
  if now.second < 0 then none else now.addSeconds? (signedLifetime lifetime)

/-- The rules for the parts of a registration, in their order. -/
def Registration.check (r : Registration) : Except Invalid Unit := do
  checkUsername r.username
  checkEmail (normalEmail r.email)
  checkPassword r.password

/-- Why an account could not be made. -/
def creationError : Failure → AccountError
  | .cancelled => .internal
  | .store error =>
    if error.isUniqueViolationOf emailConstraint then .conflict "email already exists"
    else if error.isUniqueViolationOf usernameConstraint then .conflict "username already exists"
    else .store error

variable {σ : Type} [Repository σ]

namespace Service

variable (s : Service)

/-- The mail that brings a token to a new account. -/
def mail (u : User) (token : String) : Mail :=
  { username := u.username, email := u.email, url := s.frontendUrl ++ "/confirm/" ++ token,
    sandbox := s.sandbox }

/-- Sends the mail, or removes the account again. -/
def invite (u : User) (token : String) : Action σ AccountError Registered := do
  let sent : Action σ AccountError (Except Failure Unit) :=
    (Agora.Action.write (Call.sendInvitation (s.mail u token)) fun w => .ok ((), w)).attempt
  match ← sent with
  | .ok () => return { user := u, token }
  | .error _ =>
    let _ ← (Agora.Action.write (Call.delete u.id)
      fun w => w.onStore fun store => Repository.delete store u.id :
        Action σ Failure Unit).attempt
    .refuse .internal

/-- Makes an account. The registration is given up if its invitation expires at no time. -/
def register (r : Registration) (fresh : Fresh) : Action σ AccountError Registered := do
  match r.check with
  | .error invalid => .refuse (.validation invalid.message)
  | .ok () =>
    let new : NewUser := {
      username := r.username, email := normalEmail r.email,
      passwordHash := s.scheme.store fresh.salt r.password }
    let token := Text.Uuid.ofBytes fresh.token
    match expiry? (← get).world.now s.invitationLifetime with
    | none => throw .abandoned
    | some expiresAt =>
      let u ← (Agora.Action.write (Call.createAndInvite new (tokenDigest token) expiresAt)
        fun w => w.onStore fun store =>
          Repository.createAndInvite store w.now new (tokenDigest token) expiresAt).mapError
            creationError
      s.invite u token

/-- A password that fits an active account. The digest is looked at before the account's
activity. -/
def checkPassword (u : User) (password : String) : Except AccountError Unit :=
  match s.scheme.check? u.passwordHash password with
  | none => .error .internal
  | some false => .error .unauthorized
  | some true => if u.isActive then .ok () else .error .unauthorized

/-- A session token for an account. -/
def session (now : Time.Instant) (u : User) : Except (Stop AccountError) String :=
  match s.tokens.issueFor now u.id with
  | .ok token => .ok token
  | .error stop => .error (stop.map fun _ => .internal)

/-- Exchanges email and password for a session token. For an unknown email the password is checked
all the same, against a text that nobody has, and refused whatever that says. -/
def issueToken (c : Credentials) : Action σ AccountError String := do
  let found ← (Agora.Action.lookup (Call.userByEmail (normalEmail c.email))
    fun w => some (Repository.userByEmail? w.store (normalEmail c.email))).mapError
      AccountError.ofFailure
  match found with
  | none =>
    let _ := s.scheme.check? s.decoy c.password
    .refuse .unauthorized
  | some u => do
    .ofExcept (s.checkPassword u c.password)
    .ofResult (s.session (← get).world.now u)

end Service

/-- Takes up the invitation with a token. -/
def activate (token : String) : Action σ AccountError Unit :=
  (Agora.Action.write (Call.activate (tokenDigest token))
    fun w => w.onStore fun store =>
      Repository.activate store w.now (tokenDigest token)).mapError fun
      | .store .notFound => .notFound "invitation not found or expired"
      | failure => .ofFailure failure

end Agora.Account
