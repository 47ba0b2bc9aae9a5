import Agora.Account.Store
import Agora.Exchange.Basic

/-!
# The world of the account service

The store of accounts and invitations, the clock, and the calls that the service makes: on the
store, and on whoever sends mail. Nothing is left of a mail that was sent.
-/

namespace Agora.Account

structure World (σ : Type := Store) where
  store : σ
  now : Time.Instant
deriving DecidableEq

/-- The mail that brings the token of an invitation. In a sandbox it is not delivered. -/
structure Mail where
  username : String
  email : String
  url : String
  sandbox : Bool
deriving DecidableEq

inductive Call where
  | createAndInvite (new : NewUser) (digest : String) (expiresAt : Time.Instant)
  | userByEmail (email : String)
  | activate (digest : String)
  | delete (id : Int)
  | sendInvitation (mail : Mail)
deriving DecidableEq

namespace Call

def name : Call → String
  | .createAndInvite .. => "users.create_and_invite"
  | .userByEmail _ => "users.get_by_email"
  | .activate _ => "users.activate"
  | .delete _ => "users.delete"
  | .sendInvitation _ => "mailer.send_invitation"

instance : HasName Call := ⟨name⟩

end Call

/-- What the service does during an exchange. -/
abbrev Action (σ ε α : Type) : Type := Agora.Action (World σ) Call ε α

namespace World

/-- A change of the store. -/
def onStore {σ α : Type} (change : σ → Except StoreError (α × σ)) (w : World σ) :
    Ending (World σ) StoreError α :=
  .ofExcept ((change w.store).map fun (a, store) => (a, { w with store }))

end World

end Agora.Account
