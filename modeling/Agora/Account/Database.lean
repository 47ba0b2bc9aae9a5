import Agora.Account.Store
import Agora.Sql.Session

/-!
# Accounts in a database

The four operations on accounts as statements. Making an account and taking up an invitation are
transactions, so that no account is without its invitation and no invitation is used up without
its account becoming active.
-/

namespace Agora.Account.Database

open Sql (Dialogue Row Statement)

/-- The account in a row. -/
def userOfRow (row : Row) : Dialogue User := do
  return {
    id := ← row.int "id"
    username := ← row.text "username"
    email := ← row.text "email"
    passwordHash := ← row.text "password_hash"
    isActive := ← row.bool "is_active"
    roleId := ← row.int "role_id"
    createdAt := ← row.time "created_at" }

def insertUser (new : NewUser) : Statement :=
  [.text "INSERT INTO users (username, email, password_hash, role_id) VALUES (",
    .bind (.text new.username), .text ", ", .bind (.text new.email), .text ", ",
    .bind (.text new.passwordHash),
    .text (", (SELECT id FROM roles WHERE name = 'user')) " ++
      "RETURNING id, username, email, password_hash, is_active, role_id, created_at")]

def insertInvitation (digest : String) (userId : Int) (expiresAt : Time.Instant) : Statement :=
  [.text "INSERT INTO user_invitations (token, user_id, expiry) VALUES (",
    .bind (.text digest), .text ", ", .bind (.int userId), .text ", ", .bind (.time expiresAt),
    .text ")"]

def selectUser (email : String) : Statement :=
  [.text ("SELECT id, username, email, password_hash, is_active, role_id, created_at " ++
      "FROM users WHERE email = "),
    .bind (.text email)]

def selectInvited (digest : String) : Statement :=
  [.text "SELECT u.id FROM users u JOIN user_invitations i ON i.user_id = u.id WHERE i.token = ",
    .bind (.text digest), .text " AND i.expiry > now()"]

def updateActive (userId : Int) : Statement :=
  [.text "UPDATE users SET is_active = TRUE WHERE id = ", .bind (.int userId)]

def deleteInvitations (userId : Int) : Statement :=
  [.text "DELETE FROM user_invitations WHERE user_id = ", .bind (.int userId)]

def deleteUser (id : Int) : Statement :=
  [.text "DELETE FROM users WHERE id = ", .bind (.int id)]

/-- Makes an account and its invitation. -/
def createAndInvite (new : NewUser) (digest : String) (expiresAt : Time.Instant) : Dialogue User :=
  Dialogue.transaction do
    let u ← userOfRow (← Dialogue.firstRow (insertUser new))
    let _ ← Dialogue.changed (insertInvitation digest u.id expiresAt)
    return u

def userByEmail? (email : String) : Dialogue (Option User) := do
  match ← Dialogue.firstRow? (selectUser email) with
  | some row => return some (← userOfRow row)
  | none => return none

/-- Takes up an invitation that has not expired. -/
def activate (digest : String) : Dialogue Unit :=
  Dialogue.transaction do
    match ← Dialogue.firstRow? (selectInvited digest) with
    | none => throw .absent
    | some row =>
      let userId ← row.int "id"
      let _ ← Dialogue.changed (updateActive userId)
      let _ ← Dialogue.changed (deleteInvitations userId)

/-- Removes an account. -/
def delete (id : Int) : Dialogue Unit := Dialogue.change (deleteUser id)

end Agora.Account.Database
