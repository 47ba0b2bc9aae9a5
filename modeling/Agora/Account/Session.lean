import Agora.Account.Http

/-!
# Sessions of the account service

What happens to the service is an event: it is asked for one of its three operations, or the clock
moves. Events are the same whatever kind of store keeps the accounts. A session is any sequence of
events, requests over HTTP, and accounts that are planted in the store without asking the service.
Calls of this service have no deadline.
-/

namespace Agora.Account

/-- What happens to the service. -/
inductive Event where
  | setClock (now : Time.Instant)
  | register (r : Registration) (fresh : Fresh)
  | issueToken (c : Credentials)
  | activate (token : String)
deriving DecidableEq

/-- One step of a session. -/
inductive Step where
  | plant (new : NewUser) (isActive : Bool) (id : Option Int)
  | setClock (now : Time.Instant)
  | register (r : Registration) (fresh : Fresh)
  | issueToken (c : Credentials)
  | activate (token : String)
  | request (q : Http.Request) (t : Http.Target) (fresh : Fresh)

/-- What is shown of it. -/
inductive Outcome where
  | user (user : User)
  | done
  | registered (result : Except AccountError Registered)
  | issued (result : Except AccountError String)
  | activated (result : Except AccountError Unit)
  | responded (response : Http.Response)
  | abandoned

/-- What is shown of something that may end without an answer. -/
def Outcome.ofResult {α : Type} (report : Except AccountError α → Outcome) :
    Except (Stop AccountError) α → Outcome
  | .ok a => report (.ok a)
  | .error (.refused e) => report (.error e)
  | .error .abandoned => .abandoned

section

variable {σ : Type}

/-- The outcome of one exchange. -/
def exchangeAs {α : Type} (w : World σ) (faults : List Fault) (report : α → Outcome)
    (a : StateM (Exchange (World σ) Call) α) : Outcome × List Call × World σ :=
  let (answer, x) := a { world := w, deadline := none, faults }
  (report answer, x.calls, x.world)

/-- What an event shows, the calls that were made, and the world it leaves. -/
def Event.run [Repository σ] (s : Service) (w : World σ) (faults : List Fault) :
    Event → Outcome × List Call × World σ
  | .setClock now => (.done, [], { w with now })
  | .register r fresh => exchangeAs w faults (.ofResult .registered) (s.register r fresh).run
  | .issueToken c => exchangeAs w faults (.ofResult .issued) (s.issueToken c).run
  | .activate token => exchangeAs w faults (.ofResult .activated) (Account.activate token).run

end

/-- Runs one step. -/
def Step.run (f : Front) (w : World) (faults : List Fault) : Step → Outcome × List Call × World
  | .plant new isActive id =>
    match w.store.plant? w.now new isActive id with
    | some (u, store) => (.user u, [], { w with store })
    | none => (.abandoned, [], w)
  | .setClock now => Event.run f.service w faults (.setClock now)
  | .register r fresh => Event.run f.service w faults (.register r fresh)
  | .issueToken c => Event.run f.service w faults (.issueToken c)
  | .activate token => Event.run f.service w faults (.activate token)
  | .request q t fresh =>
    exchangeAs w faults (fun r => match r with
      | some response => .responded response
      | none => .abandoned) (f.handle q t fresh)

/-- Runs the steps one after the other. -/
def runSteps (f : Front) (w : World) :
    List (List Fault × Step) → List (Outcome × List Call) × World
  | [] => ([], w)
  | (faults, step) :: rest =>
    let (outcome, calls, w) := step.run f w faults
    let (outcomes, w) := runSteps f w rest
    ((outcome, calls) :: outcomes, w)

end Agora.Account
