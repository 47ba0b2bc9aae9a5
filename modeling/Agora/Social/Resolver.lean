import Agora.Social.Error
import Agora.Social.World

/-!
# Finding users

A user is taken from the cache if it is there. Otherwise it is read from its table and put into
the cache. Whatever goes wrong with the cache counts as if the cache did not hold the user.
-/

namespace Agora.Social

/-- The user that the cache has under an id. -/
def cachedUser {ε : Type} (id : Int) : Action ε (Option User) := fun x =>
  match x.world.cache with
  | none => (.ok none, x)
  | some _ =>
    match Agora.Action.lookup (Call.cachedUser id) (fun w => some (w.cached? id)) x with
    | (.ok found, x) => (.ok found, x)
    | (.error (.refused _), x) => (.ok none, x)
    | (.error .abandoned, x) => (.error .abandoned, x)

/-- Puts a user into the cache. -/
def remember {ε : Type} (u : User) : Action ε Unit := fun x =>
  match x.world.cache with
  | none => (.ok (), x)
  | some _ =>
    match Agora.Action.write (Call.cacheUser u.id) (fun w => .ok ((), w.remember u)) x with
    | (.error .abandoned, x) => (.error .abandoned, x)
    | (_, x) => (.ok (), x)

/-- The user with an id. -/
def resolve (id : Int) : Action ResolveError User := do
  match ← cachedUser id with
  | some u => return u
  | none =>
    let found ← (Agora.Action.lookup (Call.userById id)
      fun w => w.tables?.map (·.user? id)).mapError ResolveError.ofFailure
    match found with
    | none => .refuse (.notFound id)
    | some u =>
      remember u
      return u

/-- The users with several ids, each with the error that kept it from being found. -/
def resolveAll {ε : Type} : List Int → Action ε (List (Except ResolveError User))
  | [] => return []
  | id :: rest => do
    let first ← (resolve id).attempt
    return first :: (← resolveAll rest)

end Agora.Social
