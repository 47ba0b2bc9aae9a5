import Agora.Ending

/-!
# Exchanges

An exchange is what goes on between a service and what it depends on while one request is answered:
the calls that were made, the faults that are still to come, and the time that was used of what the
request has. Time passes only where a fault stalls a call. A call that would end after the deadline
is cut there and has no effect; a call that does not stall always ends. A call may also break down
halfway, and then so does whoever made it: there is no answer and no error, and what was changed by
then stays changed.

Exchanges are the same for all services; a service has its own world, on which calls have an
effect, and its own kinds of calls.
-/

namespace Agora

/-- What is wrong with the next call of a name: it stalls, then finds no row, or fails. -/
structure Fault where
  target : String
  stall : Nat := 0
  missing : Bool := false
  error : Option StoreError := none
deriving DecidableEq

/-- Calls are known by names. -/
class HasName (Call : Type) where
  name : Call → String

/-- Why a call failed. -/
inductive Failure where
  | cancelled
  | store (error : StoreError)
deriving DecidableEq

/-- The state of an exchange. Calls stand in the order in which they were made; without a deadline
no call is cut. -/
structure Exchange (World Call : Type) where
  world : World
  deadline : Option Nat
  elapsed : Nat := 0
  faults : List Fault := []
  calls : List Call := []

namespace Exchange

variable {World Call : Type}

/-- The first fault of a name, and the others. -/
def takeFault (name : String) : List Fault → Option Fault × List Fault
  | [] => (none, [])
  | fault :: rest =>
    if fault.target = name then (some fault, rest)
    else ((takeFault name rest).1, fault :: (takeFault name rest).2)

/-- The time after a stall, if it does not pass the deadline. -/
def spend? (x : Exchange World Call) (stall : Nat) : Option Nat :=
  if stall = 0 then some x.elapsed
  else match x.deadline with
    | none => some (x.elapsed + stall)
    | some deadline =>
      if x.elapsed + stall ≤ deadline then some (x.elapsed + stall) else none

/-- Records a call and uses up the first fault of its name. -/
def log [HasName Call] (x : Exchange World Call) (call : Call) : Exchange World Call :=
  { x with calls := x.calls ++ [call], faults := (takeFault (HasName.name call) x.faults).2 }

/-- What a fault makes of a call that ends: the answer that finds no row, where the call has one,
or an error. -/
def faulted? {α : Type} (fault : Fault) (absent : Option α) : Option (Except StoreError α) :=
  match absent, fault.missing, fault.error with
  | some a, true, _ => some (.ok a)
  | _, _, some error => some (.error error)
  | _, _, none => none

/-- The effect of a call on the world. -/
def apply {α : Type} (x : Exchange World Call) (effect : World → Ending World StoreError α) :
    Except (Stop Failure) α × Exchange World Call :=
  match effect x.world with
  | .ok (a, world) => (.ok a, { x with world })
  | .error error => (.error (.refused (.store error)), x)
  | .broken world => (.error .abandoned, { x with world })

/-- Makes a call. `absent` is its answer when it finds no row, if that is an answer it can give. -/
def call [HasName Call] {α : Type} (x : Exchange World Call) (call : Call) (absent : Option α)
    (effect : World → Ending World StoreError α) :
    Except (Stop Failure) α × Exchange World Call :=
  let fault := ((takeFault (HasName.name call) x.faults).1).getD { target := "" }
  let x := x.log call
  match x.spend? fault.stall with
  | none => (.error (.refused .cancelled), { x with elapsed := x.deadline.getD x.elapsed })
  | some elapsed =>
    let x := { x with elapsed }
    match faulted? fault absent with
    | some (.ok a) => (.ok a, x)
    | some (.error error) => (.error (.refused (.store error)), x)
    | none => x.apply effect

end Exchange

/-- What is done during an exchange, with an answer, an error or neither at its end. -/
abbrev Action (World Call ε α : Type) : Type := ExceptT (Stop ε) (StateM (Exchange World Call)) α

namespace Action

variable {World Call ε ε' α : Type}

/-- A call that changes the world or fails. -/
def write [HasName Call] (call : Call) (effect : World → Ending World StoreError α) :
    Action World Call Failure α :=
  fun x => x.call call none effect

/-- What a call does that only reads the world: it answers, or it breaks down if there is none. -/
def telling (answer : World → Option α) (world : World) : Ending World StoreError α :=
  match answer world with
  | some a => .ok (a, world)
  | none => .broken world

/-- A call that reads the world. -/
def read [HasName Call] (call : Call) (answer : World → Option α) : Action World Call Failure α :=
  fun x => x.call call none (telling answer)

/-- A call that looks for a row and may find none. -/
def lookup [HasName Call] (call : Call) (answer : World → Option (Option α)) :
    Action World Call Failure (Option α) :=
  fun x => x.call call (some none) (telling answer)

/-- The same with other errors. -/
def mapError (f : ε → ε') (a : Action World Call ε α) : Action World Call ε' α :=
  fun x => match a x with
    | (.ok a, x) => (.ok a, x)
    | (.error stop, x) => (.error (stop.map f), x)

/-- The error or the answer, as an answer. -/
def attempt (a : Action World Call ε α) : Action World Call ε' (Except ε α) :=
  fun x => match a x with
    | (.ok a, x) => (.ok (.ok a), x)
    | (.error (.refused e), x) => (.ok (.error e), x)
    | (.error .abandoned, x) => (.error .abandoned, x)

/-- Ends with an error. -/
def refuse (e : ε) : Action World Call ε α := throw (.refused e)

/-- Something that was found without any call. -/
def ofResult (r : Except (Stop ε) α) : Action World Call ε α := fun x => (r, x)

/-- The same where it can be no more than refused. -/
def ofExcept (r : Except ε α) : Action World Call ε α := ofResult (r.mapError .refused)

end Action

end Agora
