import Agora.Cache.Client
import Agora.User

/-!
# Users in the cache

A user is kept as JSON text under a key that is made from its id, for five minutes. A text that is
no user is a failure, not a miss.
-/

namespace Agora.Cache.Users

/-- The seconds for which a user is kept. -/
def lifetime : Nat := 300

/-- The key of a user. -/
def key (id : Int) : String := "user:" ++ Decimal.text id

/-- The user that a text stands for. -/
def ofText (text : String) : Except CacheError User :=
  match User.decode (Json.Scan.ofText text) with
  | .ok u => .ok u
  | .error _ => .error .undecodable

/-- The user under an id. -/
def get (link : Link) (now : Time.Instant) (id : Int) (failing : Bool := false) :
    Except CacheError (Option User) × Link :=
  match link.get now (key id) failing with
  | (.ok none, link) => (.ok none, link)
  | (.ok (some text), link) => ((ofText text).map some, link)
  | (.error e, link) => (.error e, link)

/-- Keeps a user, under its own id. -/
def set (link : Link) (now : Time.Instant) (u : User) (failing : Bool := false) :
    Except CacheError Unit × Link :=
  link.set now (key u.id) u.toJson.text (some lifetime) failing

end Agora.Cache.Users
