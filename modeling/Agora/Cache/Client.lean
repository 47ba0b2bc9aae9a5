import Agora.Cache.Server

/-!
# The client of a key-value server

A client knows an address and asks the server there, if one can be reached, one command at a time.
A key that is not there is an answer, not a failure.
-/

namespace Agora.Cache

/-- Why the cache gave no answer. -/
inductive CacheError where
  | unreachable
  | refused
  | undecodable
deriving DecidableEq, Repr

/-- What is at the other end. -/
inductive Link where
  | down
  | up (server : Server)
deriving DecidableEq

/-! ## Commands -/

namespace Link

/-- Sends a command. `failing` is set when the server answers an error whatever is asked. -/
def send (link : Link) (now : Time.Instant) (command : Command) (failing : Bool := false) :
    Except CacheError Reply × Link :=
  match link with
  | .down => (.error .unreachable, .down)
  | .up server =>
    if failing then (.error .refused, .up server)
    else match server.run now command with
      | (.refused, server) => (.error .refused, .up server)
      | (reply, server) => (.ok reply, .up server)

/-- The text under a key. -/
def get (link : Link) (now : Time.Instant) (key : String) (failing : Bool := false) :
    Except CacheError (Option String) × Link :=
  match link.send now (.get key) failing with
  | (.ok (.text value), link) => (.ok (some value), link)
  | (.ok _, link) => (.ok none, link)
  | (.error e, link) => (.error e, link)

/-- Puts a text under a key, for a number of seconds or for ever. -/
def set (link : Link) (now : Time.Instant) (key value : String) (seconds : Option Nat)
    (failing : Bool := false) : Except CacheError Unit × Link :=
  let command := match seconds with
    | some seconds => .setFor key seconds value
    | none => .set key value
  match link.send now command failing with
  | (.ok _, link) => (.ok (), link)
  | (.error e, link) => (.error e, link)

/-- Removes a key. -/
def delete (link : Link) (now : Time.Instant) (key : String) (failing : Bool := false) :
    Except CacheError Unit × Link :=
  match link.send now (.delete key) failing with
  | (.ok _, link) => (.ok (), link)
  | (.error e, link) => (.error e, link)

/-- Whether the server answers a ping as it should. -/
def isHealthy (link : Link) (now : Time.Instant) (failing : Bool := false) :
    Except CacheError Bool × Link :=
  match link.send now .ping failing with
  | (.ok reply, link) => (.ok (reply = .text "PONG"), link)
  | (.error e, link) => (.error e, link)

end Link

end Agora.Cache
