import Agora.Social.Http

/-!
# Sessions

A session is any sequence of steps on one world: operations and parts of them run on their own,
requests over HTTP, moves of the clock, and rows that are planted without asking the service. Every
step but those that plant and look is one exchange, with its own deadline and faults.
-/

namespace Agora.Social

/-- One step of a session. -/
inductive Step where
  | plantUser (username roleName : String)
  | plantPost (new : Store.NewPost) (time : Time.Instant)
  | plantComment (new : Store.NewComment)
  | plantFollow (follower followed : Int)
  | plantCached (user : User)
  | isFollowing (follower followed : Int)
  | peekPost (id : Int)
  | setClock (now : Time.Instant)
  | operate (caller : User) (op : Operation)
  | authorize (caller : User) (owner : Int) (roleName : String)
  | resolve (id : Int)
  | resolveAll (ids : List Int)
  | request (q : Http.Request) (t : Http.Target)

/-- What a step shows. -/
inductive Outcome where
  | user (user : User)
  | post (post : Post)
  | peeked (post : Option Post)
  | truth (value : Bool)
  | done
  | operated (result : Except ServiceError Answer)
  | authorized (result : Except AccessError Bool)
  | resolved (result : Except ResolveError User)
  | resolvedAll (results : List (Except ResolveError User))
  | responded (response : Http.Response)
  | abandoned

/-- The limits and the faults of a step. -/
structure Terms where
  deadline : Nat := 10000
  faults : List Fault := []

/-- What is shown of something that may end without an answer. -/
def Outcome.ofResult {ε α : Type} (report : Except ε α → Outcome) :
    Except (Stop ε) α → Outcome
  | .ok a => report (.ok a)
  | .error (.refused e) => report (.error e)
  | .error .abandoned => .abandoned

/-- What is shown of a request. -/
def Outcome.ofResponse : Option Http.Response → Outcome
  | some response => .responded response
  | none => .abandoned

/-- What is shown of several users that were looked for. -/
def Outcome.ofUsers : Except Empty (List (Except ResolveError User)) → Outcome
  | .ok results => .resolvedAll results

/-- Runs an action as one exchange. -/
def exchange {α : Type} (w : World) (terms : Terms) (a : StateM (Exchange World Call) α) :
    α × List Call × World :=
  let (answer, x) := a { world := w, deadline := some terms.deadline, faults := terms.faults }
  (answer, x.calls, x.world)

/-- The outcome of an exchange. -/
def exchangeAs {α : Type} (w : World) (terms : Terms) (report : α → Outcome)
    (a : StateM (Exchange World Call) α) : Outcome × List Call × World :=
  let (answer, calls, w) := exchange w terms a
  (report answer, calls, w)

/-- The outcome of a change of the tables that is made without asking the service. -/
def plant {α : Type} (w : World) (report : α → Outcome) (change : Store → Ending Store Empty α) :
    Outcome × List Call × World :=
  match w.onStore change with
  | .ok (a, w) => (report a, [], w)
  | .broken w => (.abandoned, [], w)

/-- What is shown of the tables, if their lock can be had. -/
def peek (w : World) (report : Store → Outcome) : Outcome × List Call × World :=
  match w.tables? with
  | some s => (report s, [], w)
  | none => (.abandoned, [], w)

/-- Runs one step. -/
def Step.run (f : Front) (w : World) (terms : Terms) : Step → Outcome × List Call × World
  | .plantUser username roleName => plant w .user fun s => s.addUser w.now username roleName
  | .plantPost new time => plant w .post fun s => .ok (s.addPost new time)
  | .plantComment new => plant w (fun _ => .done) fun s => s.plantComment w.now new
  | .plantFollow follower followed =>
    plant w (fun _ => .done) fun s => .ok ((), s.addFollow follower followed)
  | .plantCached user => (.done, [], w.remember user)
  | .isFollowing follower followed => peek w fun s => .truth (s.isFollowing follower followed)
  | .peekPost id => peek w fun s => .peeked (s.post? id)
  | .setClock now => (.done, [], { w with now })
  | .operate caller op => exchangeAs w terms (.ofResult .operated) (op.run caller).run
  | .authorize caller owner roleName =>
    exchangeAs w terms (.ofResult .authorized) (Social.authorize caller owner roleName).run
  | .resolve id => exchangeAs w terms (.ofResult .resolved) (Social.resolve id).run
  | .resolveAll ids => exchangeAs w terms (.ofResult .ofUsers) (Social.resolveAll ids).run
  | .request q t => exchangeAs w terms .ofResponse (f.handle q t)

/-- Runs the steps one after the other. -/
def runSteps (f : Front) (w : World) : List (Terms × Step) → List (Outcome × List Call) × World
  | [] => ([], w)
  | (terms, step) :: rest =>
    let (outcome, calls, w) := step.run f w terms
    let (outcomes, w) := runSteps f w rest
    ((outcome, calls) :: outcomes, w)

end Agora.Social
