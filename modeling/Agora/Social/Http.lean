import Agora.Http.Headers
import Agora.Http.Target
import Agora.Social.Operation
import Agora.Text.Quoted
import Agora.Token.Service

/-!
# The social service over HTTP

Every route but one wants a session token. The caller is the user that the token is about; only
when it is known are the arguments of the operation read, those in the path before those in the
body. The whole request, finding the caller included, is one exchange.
-/

namespace Agora.Social

open Agora.Http (Request Response Target)

/-- What a front needs beside the world: tokens are checked with `tokens`, and the report of its
own health says whether the database answers. -/
structure Front where
  tokens : Token.Service
  databaseAnswers : Bool := false

/-- The places that requests go to, with the text of the id in the path. -/
inductive Route where
  | health
  | posts
  | post (id : List Char)
  | comments (id : List Char)
  | feed
  | user (id : List Char)
  | follow (id : List Char)
  | unfollow (id : List Char)
deriving DecidableEq

namespace Route

/-- The route of the segments of a path. An id may be empty only where more follows it. -/
def ofSegments? (segments : List (List Char)) : Option Route :=
  match segments.map String.ofList with
  | ["health"] => some .health
  | ["posts"] => some .posts
  | ["posts", id] => if id = "" then none else some (.post id.toList)
  | ["posts", id, "comments"] => some (.comments id.toList)
  | ["users", "feed"] => some .feed
  | ["users", id] => if id = "" then none else some (.user id.toList)
  | ["users", id, "follow"] => some (.follow id.toList)
  | ["users", id, "unfollow"] => some (.unfollow id.toList)
  | _ => none

end Route

/-- The id that a segment of a path stands for. -/
def readId (segment : List Char) : Except ServiceError Int :=
  match Text.Percent.decodeSegment? segment with
  | none => .error (.validation "Invalid URL: Invalid UTF-8 in `id`")
  | some cs =>
    match Decimal.int64? cs with
    | some id => .ok id
    | none =>
      .error (.validation
        (String.ofList ("Invalid URL: Cannot parse `".toList ++ Text.Quoted.quote cs ++
          "` to a `i64`".toList)))

/-- `readId`, with what a client is told. -/
def pathId (segment : List Char) : Except Response Int :=
  match readId segment with
  | .ok id => .ok id
  | .error e => .error e.response

/-- The methods that read and change nothing. -/
def isReading (method : String) : Bool := method = "GET" || method = "HEAD"

/-- How the operation is read from a request of the given method, if the route has the method. -/
def Route.reader? (r : Route) (method : String) :
    Option (Request → Target → Except Response Operation) :=
  match r with
  | .health => none
  | .posts =>
    if method = "POST" then some fun q _ => do
      return .create (← q.readBody PostDraft.decode)
    else none
  | .post id =>
    if isReading method then some fun _ _ => do return .get (← pathId id)
    else if method = "PATCH" then some fun q _ => do
      let id ← pathId id
      return .update id (← q.readBody PostEdit.decode)
    else if method = "DELETE" then some fun _ _ => do return .delete (← pathId id)
    else none
  | .comments id =>
    if method = "POST" then some fun q _ => do
      let id ← pathId id
      return .comment id (← q.readBody CommentDraft.decode)
    else none
  | .feed =>
    if isReading method then some fun _ t =>
      match Feed.Params.ofPairs? t.pairs with
      | some params => .ok (.feed params)
      | none => .error (.bare 400)
    else none
  | .user id =>
    if isReading method then some fun _ _ => do return .profile (← pathId id) else none
  | .follow id =>
    if method = "PUT" then some fun _ _ => do return .follow (← pathId id) else none
  | .unfollow id =>
    if method = "PUT" then some fun _ _ => do return .unfollow (← pathId id) else none

/-- The response to an operation that succeeded. -/
def Operation.success (op : Operation) (answer : Answer) : Response :=
  match op with
  | .create _ | .comment .. => .json 201 answer.toJson
  | .delete _ | .follow _ | .unfollow _ => .bare 204
  | .get _ | .update .. | .profile _ | .feed _ => .json 200 answer.toJson

/-- The response to an operation. -/
def Operation.respond (op : Operation) : Except ServiceError Answer → Response
  | .ok answer => op.success answer
  | .error e => e.response

/-- A user that the token is about and that is not there is the token's fault. -/
def ServiceError.ofCaller : ResolveError → ServiceError
  | .notFound _ => .unauthenticated
  | e => .ofResolve e

/-- The id of the user that a request's token is about. The request is given up if the clock cannot
be read. -/
def Front.subject (f : Front) (now : Time.Instant) (q : Request) :
    Except (Stop ServiceError) Int :=
  match q.token? with
  | none => .error (.refused .unauthenticated)
  | some token =>
    match f.tokens.validate now token with
    | .error .clockBeforeEpoch => .error .abandoned
    | .error _ => .error (.refused .unauthenticated)
    | .ok claims =>
      match claims.subjectId? with
      | some id => .ok id
      | none => .error (.refused .unauthenticated)

/-- The user who makes a request. -/
def Front.caller (f : Front) (q : Request) : Action ServiceError User := do
  let id ← .ofResult (f.subject (← get).world.now q)
  (resolve id).mapError ServiceError.ofCaller

/-- The response to a request of a known caller. -/
def serve (r : Route) (q : Request) (t : Target) (caller : User) :
    Action ServiceError Response := do
  match r.reader? q.method with
  | none => return .bare 405
  | some reader =>
    match reader q t with
    | .error response => return response
    | .ok op => return op.respond (← (op.run caller).attempt)

/-- The report of the service's own health. -/
def Front.health (f : Front) (method : String) : Response :=
  if isReading method then
    .json 200 (.obj [("status", .str (if f.databaseAnswers then "ok" else "degraded")),
      ("service", .str "api-service")])
  else .bare 405

/-- A request that asks only for the head of a response gets no body, where the route can be
read. -/
def trimBody (r : Route) (method : String) (response : Response) : Response :=
  if method = "HEAD" ∧ (r = .health ∨ (r.reader? method).isSome) then .bare response.status
  else response

/-- The response to a request; none if it was given up. -/
def Front.handle (f : Front) (q : Request) (t : Target) :
    StateM (Exchange World Call) (Option Response) := do
  match Route.ofSegments? t.segments with
  | none => return some (.bare 404)
  | some .health => return some (trimBody .health q.method (f.health q.method))
  | some route =>
    let served : Action ServiceError Response := do serve route q t (← f.caller q)
    match ← served.run with
    | .ok response => return some (trimBody route q.method response)
    | .error (.refused e) => return some (trimBody route q.method e.response)
    | .error .abandoned => return none

end Agora.Social
