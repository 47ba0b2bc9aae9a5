import Agora.Time.Instant

/-!
# A key-value server

Texts under keys, each for ever or for a number of seconds from when it was put there; a text is
gone as soon as its time is over.
-/

namespace Agora.Cache

/-- What a server is asked to do. -/
inductive Command where
  | get (key : String)
  | set (key value : String)
  | setFor (key : String) (seconds : Nat) (value : String)
  | delete (key : String)
  | ping
deriving DecidableEq

/-- What a server answers. -/
inductive Reply where
  | text (value : String)
  | nothing
  | count (n : Nat)
  | done
  | refused
deriving DecidableEq

structure Entry where
  key : String
  value : String
  /-- The nanosecond, counted from the start of 1970, from which on the entry is gone. -/
  goneAt : Option Int
deriving DecidableEq

structure Server where
  entries : List Entry := []
  /-- What it answers to a ping. -/
  pong : String := "PONG"
deriving DecidableEq

/-- The nanoseconds since the start of 1970. -/
def nanos (now : Time.Instant) : Int := now.second * 1000000000 + now.nano

namespace Server

/-- The text under a key. -/
def get? (s : Server) (now : Time.Instant) (key : String) : Option String :=
  ((s.entries.find? (·.key = key)).filter fun e => e.goneAt.all (nanos now < ·)).map (·.value)

/-- The server without a key. -/
def erase (s : Server) (key : String) : Server :=
  { s with entries := s.entries.filter (·.key ≠ key) }

/-- The server with an entry in place of those of the same key. -/
def insert (s : Server) (e : Entry) : Server :=
  { s with entries := e :: (s.erase e.key).entries }

/-- Does what a command asks for. A lifetime of nothing is refused. -/
def run (s : Server) (now : Time.Instant) : Command → Reply × Server
  | .get key =>
    match s.get? now key with
    | some value => (.text value, s)
    | none => (.nothing, s)
  | .set key value => (.done, s.insert ⟨key, value, none⟩)
  | .setFor key seconds value =>
    if seconds = 0 then (.refused, s)
    else (.done, s.insert ⟨key, value, some (nanos now + seconds * 1000000000)⟩)
  | .delete key => (.count (if (s.get? now key).isSome then 1 else 0), s.erase key)
  | .ping => (.text s.pong, s)

end Server

end Agora.Cache
