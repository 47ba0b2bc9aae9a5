import Agora.Social.Error
import Agora.Social.World

/-!
# Who may change what

The owner may, whatever its role. Everybody else needs a role whose level is at least that of the
role which the change asks for; only then is that role looked up.
-/

namespace Agora.Social

/-- The roles that changes of a post ask for. -/
def commentRole : String := "user"
def editRole : String := "moderator"
def deleteRole : String := "admin"

/-- Whether a caller may do what asks for a role, to something of an owner. -/
def authorize (caller : User) (owner : Int) (roleName : String) : Action AccessError Bool := do
  if caller.id = owner then return true
  else
    let role ← (Agora.Action.lookup (Call.roleByName roleName)
      fun w => w.tables?.map (·.role? roleName)).mapError AccessError.ofFailure
    match role with
    | none => .refuse (.unknownRole roleName)
    | some role => return role.level ≤ caller.role.level

end Agora.Social
