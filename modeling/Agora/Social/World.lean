import Agora.Exchange.Basic
import Agora.Store

/-!
# The world of the social service

The tables behind their lock, a cache of users (which may be switched off), and the clock; and the
calls that the service makes on them.
-/

namespace Agora.Social

/-- What the service works on. A cache that is switched off holds nothing and is never called. -/
structure World where
  store : Store
  cache : Option (List (Int × User))
  now : Time.Instant
  /-- Something broke down that held the lock of the tables. Nobody gets it any more. -/
  poisoned : Bool := false
deriving DecidableEq

/-- A call on a table or on the cache. -/
inductive Call where
  | userById (id : Int)
  | roleByName (name : String)
  | createPost (new : Store.NewPost)
  | postById (id : Int)
  | updatePost (id : Int) (version : Int32) (title content : String)
  | deletePost (id : Int)
  | feed (reader : Int)
  | createComment (new : Store.NewComment)
  | commentsByPost (id : Int)
  | follow (follower followed : Int)
  | unfollow (follower followed : Int)
  | cachedUser (id : Int)
  | cacheUser (id : Int)
deriving DecidableEq

namespace Call

def name : Call → String
  | .userById _ => "users.get_by_id"
  | .roleByName _ => "roles.get_by_name"
  | .createPost _ => "posts.create"
  | .postById _ => "posts.get_by_id"
  | .updatePost .. => "posts.update"
  | .deletePost _ => "posts.delete"
  | .feed _ => "posts.get_user_feed"
  | .createComment _ => "comments.create"
  | .commentsByPost _ => "comments.get_by_post_id"
  | .follow .. => "followers.follow"
  | .unfollow .. => "followers.unfollow"
  | .cachedUser _ => "cache.get"
  | .cacheUser _ => "cache.set"

instance : HasName Call := ⟨name⟩

/-- The arguments of a call. -/
def arguments : Call → Json
  | .userById id | .postById id | .deletePost id | .feed id | .commentsByPost id
  | .cachedUser id | .cacheUser id => .int id
  | .roleByName name => .str name
  | .createPost new =>
    .arr [.int new.userId, .str new.title, .str new.content, .arr (new.tags.map .str)]
  | .updatePost id version title content =>
    .arr [.int id, .int version.toInt, .str title, .str content]
  | .createComment new => .arr [.int new.postId, .int new.userId, .str new.content]
  | .follow follower followed | .unfollow follower followed =>
    .arr [.int follower, .int followed]

/-- The call is one on the cache. -/
def isOnCache : Call → Bool
  | .cachedUser _ | .cacheUser _ => true
  | _ => false

end Call

/-- What the service does during an exchange. -/
abbrev Action (ε α : Type) : Type := Agora.Action World Call ε α

namespace World

/-- The tables, if their lock can be had. -/
def tables? (w : World) : Option Store := if w.poisoned then none else some w.store

/-- A change of the tables. One that breaks down does so with the lock in its hands. -/
def onStore {ε α : Type} (change : Store → Ending Store ε α) (w : World) : Ending World ε α :=
  match w.tables? with
  | none => .broken w
  | some s =>
    match change s with
    | .ok (a, store) => .ok (a, { w with store })
    | .error e => .error e
    | .broken store => .broken { w with store, poisoned := true }

/-- The user that the cache holds under an id. -/
def cached? (w : World) (id : Int) : Option User := w.cache.bind fun entries => entries.lookup id

/-- The world with a user in the cache, under its own id. -/
def remember (w : World) (u : User) : World :=
  { w with cache := w.cache.map fun entries => (u.id, u) :: entries.filter (·.1 ≠ u.id) }

end World

end Agora.Social
