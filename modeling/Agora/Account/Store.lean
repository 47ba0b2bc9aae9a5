import Agora.Json.Value
import Agora.StoreError
import Agora.Time.Rfc3339

/-!
# Accounts and invitations

The accounts, with the texts of their passwords' digests, and the invitations that wait to be
taken up. An invitation is known by the digest of its token, never by the token. Emails, usernames
and digests are each used once at a time; an id that was given out is never given out again, and
ids are numbers of 64 bits.

The service works with any store that answers four calls (`Repository`); `Store`, a plain list of
accounts and one of invitations, is such a store.
-/

namespace Agora.Account

/-- An account. What is written of it leaves the password's digest out. -/
structure User where
  id : Int
  username : String
  email : String
  passwordHash : String
  isActive : Bool
  roleId : Int
  createdAt : Time.Instant
deriving DecidableEq

def User.toJson (u : User) : Json :=
  .obj [("id", .int u.id), ("username", .str u.username), ("email", .str u.email),
    ("is_active", .bool u.isActive), ("role_id", .int u.roleId),
    ("created_at", .str u.createdAt.text)]

/-- What an account is made from. -/
structure NewUser where
  username : String
  email : String
  passwordHash : String
deriving DecidableEq

/-- Whoever knows the token may activate the user, until the invitation expires. -/
structure Invitation where
  digest : String
  userId : Int
  expiresAt : Time.Instant
deriving DecidableEq

/-- Whatever keeps accounts and invitations, by what its calls answer and what they leave. A call
that fails leaves everything as it was. -/
class Repository (σ : Type) where
  /-- Makes an account and an invitation for it. -/
  createAndInvite : σ → Time.Instant → NewUser → String → Time.Instant →
    Except StoreError (User × σ)
  userByEmail? : σ → String → Option User
  /-- Takes up an invitation. -/
  activate : σ → Time.Instant → String → Except StoreError (Unit × σ)
  /-- Removes an account. -/
  delete : σ → Int → Except StoreError (Unit × σ)

structure Store where
  users : List User := []
  invitations : List Invitation := []
  /-- The id that was given out last. -/
  lastId : Int := 0
deriving DecidableEq

/-- The rules that emails, usernames and digests of invitations are used once. -/
def emailConstraint : String := "users_email_key"
def usernameConstraint : String := "users_username_key"
def digestConstraint : String := "user_invitations_pkey"

namespace Store

variable (s : Store)

def userByEmail? (email : String) : Option User := s.users.find? (·.email = email)

/-- An inactive account of the lowest role. -/
def newAccount (now : Time.Instant) (new : NewUser) : User :=
  { id := s.lastId + 1, username := new.username, email := new.email,
    passwordHash := new.passwordHash, isActive := false, roleId := 1, createdAt := now }

/-- The report that the last of all ids was given out. -/
def idsUsedUp : StoreError :=
  .query (.database "nextval: reached maximum value of sequence" .other none)

/-- Makes an account and an invitation for it. -/
def createAndInvite (now : Time.Instant) (new : NewUser) (digest : String)
    (expiresAt : Time.Instant) : Except StoreError (User × Store) :=
  if s.users.any (·.email = new.email) then .error (.uniqueViolation emailConstraint)
  else if s.users.any (·.username = new.username) then .error (.uniqueViolation usernameConstraint)
  else if s.invitations.any (·.digest = digest) then .error (.uniqueViolation digestConstraint)
  else if 9223372036854775807 ≤ s.lastId then .error idsUsedUp
  else
    let u := s.newAccount now new
    .ok (u, { users := s.users ++ [u], invitations := s.invitations ++ [⟨digest, u.id, expiresAt⟩],
              lastId := u.id })

/-- Takes up an invitation that has not expired: its user becomes active and has no invitations
any more. -/
def activate (now : Time.Instant) (digest : String) : Except StoreError (Unit × Store) :=
  match s.invitations.find? fun i => i.digest = digest && now < i.expiresAt with
  | none => .error .notFound
  | some invitation =>
    .ok ((), { s with
      users := s.users.map fun u =>
        if u.id = invitation.userId then { u with isActive := true } else u
      invitations := s.invitations.filter (·.userId ≠ invitation.userId) })

/-- Removes an account and its invitations. -/
def delete (id : Int) : Except StoreError (Unit × Store) :=
  if s.users.any (·.id = id) then
    .ok ((), { s with users := s.users.filter (·.id ≠ id)
                      invitations := s.invitations.filter (·.userId ≠ id) })
  else .error .notFound

/-- Puts an account in as it is given, unless the clock stands before 1970 and cannot be read. An id
is given out for it, whether it uses it or has one of its own. -/
def plant? (now : Time.Instant) (new : NewUser) (isActive : Bool) (id : Option Int) :
    Option (User × Store) :=
  if now.second < 0 then none
  else
    let u := { s.newAccount now new with isActive, id := id.getD (s.lastId + 1) }
    some (u, { s with users := s.users ++ [u], lastId := s.lastId + 1 })

end Store

instance : Repository Store where
  createAndInvite := Store.createAndInvite
  userByEmail? := Store.userByEmail?
  activate := Store.activate
  delete := Store.delete

end Agora.Account
