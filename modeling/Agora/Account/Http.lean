import Agora.Account.Service
import Agora.Http.Headers
import Agora.Http.Target

/-!
# The account service over HTTP

Three routes, none of which asks who the caller is, and a report of the service's own health.
-/

namespace Agora.Account

open Agora.Http (Request Response Target)

inductive Route where
  | health
  | register
  | issueToken
  | activate (token : List Char)
deriving DecidableEq

/-- The route of the segments of a path. -/
def Route.ofSegments? (segments : List (List Char)) : Option Route :=
  match segments.map String.ofList with
  | ["health"] => some .health
  | ["authentication", "user"] => some .register
  | ["authentication", "token"] => some .issueToken
  | ["users", "activate", token] => if token = "" then none else some (.activate token.toList)
  | _ => none

/-- The method of a route. A route that can be read can also be asked for its head only. -/
def Route.hasMethod (r : Route) (method : String) : Bool :=
  match r with
  | .health => method = "GET" || method = "HEAD"
  | .register | .issueToken => method = "POST"
  | .activate _ => method = "PUT"

/-- What the service needs beside its world to answer requests. -/
structure Front where
  service : Service
  databaseAnswers : Bool := false

variable {σ : Type} [Repository σ]

/-- The response to a registration; none if it was given up. -/
def Front.register (f : Front) (q : Request) (fresh : Fresh) :
    StateM (Exchange (World σ) Call) (Option Response) := do
  match q.readBody Registration.decode with
  | .error response => return some response
  | .ok r =>
    match ← (f.service.register r fresh).run with
    | .ok registered => return some (.json 201 registered.toJson)
    | .error (.refused e) => return some e.response
    | .error .abandoned => return none

/-- The response to a log-in; none if it was given up. -/
def Front.issueToken (f : Front) (q : Request) :
    StateM (Exchange (World σ) Call) (Option Response) := do
  match q.readBody Credentials.decode with
  | .error response => return some response
  | .ok c =>
    match ← (f.service.issueToken c).run with
    | .ok token => return some (.json 201 (.obj [("token", .str token)]))
    | .error (.refused e) => return some e.response
    | .error .abandoned => return none

/-- The response to an activation; none if it was given up. -/
def respondActivate (segment : List Char) :
    StateM (Exchange (World σ) Call) (Option Response) := do
  match Text.Percent.decodeSegment? segment with
  | none => return some (.bare 400)
  | some token =>
    match ← (activate (.ofList token)).run with
    | .ok () => return some (.json 200 (.obj [("message", .str "Account activated")]))
    | .error (.refused e) => return some e.response
    | .error .abandoned => return none

/-- The report of the service's own health. -/
def Front.health (f : Front) (method : String) : Response :=
  if method = "HEAD" then .bare 200
  else .json 200 (.obj [("status", .str (if f.databaseAnswers then "ok" else "degraded")),
    ("service", .str "auth-service")])

/-- The response to a request; none if it was given up. -/
def Front.handle (f : Front) (q : Request) (t : Target) (fresh : Fresh) :
    StateM (Exchange (World σ) Call) (Option Response) := do
  match Route.ofSegments? t.segments with
  | none => return some (.bare 404)
  | some r =>
    if r.hasMethod q.method then
      match r with
      | .health => return some (f.health q.method)
      | .register => f.register q fresh
      | .issueToken => f.issueToken q
      | .activate segment => respondActivate segment
    else return some (.bare 405)

end Agora.Account
