import Agora.Sql.Statement
import Agora.StoreError

/-!
# Sessions with a database

A session sends commands, one at a time, and each but a rollback is answered by the next reply of
the server. Both sides are data: the commands that were sent and the replies that are still to
come. A transaction is committed after its last command and rolled back as soon as one of its
commands, the commit included, gives no answer.
-/

namespace Agora.Sql

/-- A row: values by the names of their columns. -/
abbrev Row := List (String × Value)

/-- What is sent to the server. -/
inductive Command where
  | begin
  | commit
  | rollback
  | run (statement : Statement)
deriving DecidableEq

/-- What a command that succeeds is answered with: rows, or the number of rows it changed. -/
inductive Answer where
  | rows (rows : List Row)
  | affected (count : Nat)
deriving DecidableEq

/-- What the server says to a command. -/
abbrev Reply := Except DriverError Answer

/-- Both sides of a session. A session that is closed sends nothing. -/
structure Session where
  isOpen : Bool := true
  replies : List Reply
  sent : List Command := []

/-- Why there is no answer: the driver reports something, a row that is needed is not there, or a
row is not of the form that it must have. -/
inductive Stop where
  | driver (cause : DriverError)
  | absent
  | unreadable (column : String)
deriving DecidableEq

/-- The error that a store makes of it. A row of another form is none of a store's errors. -/
def Stop.error? : Stop → Option StoreError
  | .driver cause => some (.ofDriver cause)
  | .absent => some .notFound
  | .unreadable _ => none

/-- What is done in a session. -/
abbrev Dialogue (α : Type) : Type := ExceptT Stop (StateM Session) α

namespace Dialogue

variable {α : Type}

/-- Ends with what the driver reports. -/
def fail (cause : DriverError) : Dialogue α := throw (.driver cause)

/-- The report of a server that has no reply left. -/
def silence : DriverError := .database "no reply scripted" .other none

/-- Sends a command and takes its reply. -/
def send (command : Command) : Dialogue Answer := fun s =>
  if s.isOpen then
    let s := { s with sent := s.sent ++ [command] }
    match s.replies with
    | [] => fail silence s
    | .error cause :: rest => fail cause { s with replies := rest }
    | .ok answer :: rest => (.ok answer, { s with replies := rest })
  else fail .poolClosed s

/-- The rows that a statement gives. -/
def rows (statement : Statement) : Dialogue (List Row) := do
  match ← send (.run statement) with
  | .rows rows => return rows
  | .affected _ => return []

/-- The first row, if there is one. -/
def firstRow? (statement : Statement) : Dialogue (Option Row) := do
  return (← rows statement).head?

/-- The first row, which has to be there. -/
def firstRow (statement : Statement) : Dialogue Row := do
  match ← firstRow? statement with
  | some row => return row
  | none => fail .rowNotFound

/-- How many rows a statement changed. -/
def changed (statement : Statement) : Dialogue Nat := do
  match ← send (.run statement) with
  | .affected count => return count
  | .rows rows => return rows.length

/-- Runs a statement that must change a row. -/
def change (statement : Statement) : Dialogue Unit := do
  if (← changed statement) = 0 then throw .absent

/-- Runs the body between the start and the end of a transaction. -/
def transaction (body : Dialogue α) : Dialogue α := fun s =>
  match send .begin s with
  | (.error stop, s) => (.error stop, s)
  | (.ok _, s) =>
    match (do let a ← body; let _ ← send .commit; return a : Dialogue α) s with
    | (.ok a, s) => (.ok a, s)
    | (.error stop, s) => (.error stop, { s with sent := s.sent ++ [.rollback] })

/-- What a store answers: none if a row is not of the form that it must have. -/
def run? (a : Dialogue α) (s : Session) : Option (Except StoreError α) × Session :=
  match a s with
  | (.ok answer, s) => (some (.ok answer), s)
  | (.error stop, s) => (stop.error?.map .error, s)

end Dialogue

namespace Row

/-- The value of a column that must be there and of one kind. -/
def column {α : Type} (row : Row) (name : String) (read? : Value → Option α) : Dialogue α :=
  match (row.lookup name).bind read? with
  | some a => return a
  | none => throw (.unreadable name)

def int (row : Row) (name : String) : Dialogue Int :=
  row.column name fun
    | .int n => some n
    | _ => none

/-- A number that fits into a signed word of 32 bits. -/
def word32 (row : Row) (name : String) : Dialogue Int32 :=
  row.column name fun
    | .int n => if -2147483648 ≤ n ∧ n ≤ 2147483647 then some (.ofInt n) else none
    | _ => none

def text (row : Row) (name : String) : Dialogue String :=
  row.column name fun
    | .text s => some s
    | _ => none

def texts (row : Row) (name : String) : Dialogue (List String) :=
  row.column name fun
    | .texts ss => some ss
    | _ => none

def bool (row : Row) (name : String) : Dialogue Bool :=
  row.column name fun
    | .bool b => some b
    | _ => none

def time (row : Row) (name : String) : Dialogue Time.Instant :=
  row.column name fun
    | .time t => some t
    | _ => none

end Row

/-- The database answers the simplest statement. -/
def isHealthy : Dialogue Bool := fun s =>
  match Dialogue.firstRow [.text "SELECT 1"] s with
  | (.ok _, s) => (.ok true, s)
  | (.error _, s) => (.ok false, s)

end Agora.Sql
