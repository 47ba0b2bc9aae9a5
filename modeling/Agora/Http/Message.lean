import Agora.Json.Value

/-!
# Requests and responses

What of HTTP the services deal with. A body that is answered is always a JSON document; a response
without one may stand for any text that is not.
-/

namespace Agora.Http

/-- A request with its headers in their order. The target is the path with its query. -/
structure Request where
  method : String
  target : String
  headers : List (String × String) := []
  body : String := ""
deriving DecidableEq

structure Response where
  status : Nat
  body : Option Json

namespace Response

/-- A document. -/
def json (status : Nat) (body : Json) : Response := ⟨status, some body⟩

/-- No document. -/
def bare (status : Nat) : Response := ⟨status, none⟩

/-- A document that says what went wrong. -/
def error (status : Nat) (text : String) : Response := json status (.obj [("error", .str text)])

end Response

end Agora.Http
