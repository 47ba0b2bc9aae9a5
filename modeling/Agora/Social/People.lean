import Agora.Social.Resolver

/-!
# Profiles, follows and feeds
-/

namespace Agora.Social

/-- The user with an id, as everybody sees it. -/
def profile (id : Int) : Action ServiceError User := (resolve id).mapError ServiceError.ofResolve

/-- Lets the caller follow a user. -/
def follow (caller : User) (id : Int) : Action ServiceError Unit := do
  if caller.id = id then .refuse (.validation "cannot follow yourself")
  else
    (Agora.Action.write (Call.follow caller.id id)
      fun w => w.onStore fun s => s.follow caller.id id).mapError fun
        | .store (.uniqueViolation _) =>
          .conflict ("already following user " ++ Decimal.text id)
        | .store (.foreignKeyViolation _) => .notFound (userNotFound id)
        | failure => .ofFailure failure

/-- Ends that the caller follows a user. -/
def unfollow (caller : User) (id : Int) : Action ServiceError Unit :=
  (Agora.Action.write (Call.unfollow caller.id id)
    fun w => w.onStore fun s => s.unfollow caller.id id).mapError fun
      | .store .notFound => .notFound ("not following user " ++ Decimal.text id)
      | failure => .ofFailure failure

/-- The page of the caller's feed that the parameters ask for. -/
def feed (caller : User) (params : Feed.Params) : Action ServiceError (List FeedItem) := do
  match params.query with
  | .error e => .refuse (.ofQuery e)
  | .ok query =>
    (Agora.Action.read (Call.feed caller.id)
      fun w => w.tables?.map (·.feed caller.id query)).mapError ServiceError.ofFailure

end Agora.Social
