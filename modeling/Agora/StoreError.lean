/-!
# What goes wrong in a store

A database, or the way to it, reports a `DriverError`. A store turns it into a `StoreError`, which
tells apart what callers react to: a missing row, the two kinds of broken constraints, a store that
cannot be reached. Everything else is a failed query with its cause.
-/

namespace Agora

/-- The kinds of rules that a database refuses to break. -/
inductive Violation where
  | unique
  | foreignKey
  | notNull
  | check
  | other
deriving DecidableEq, Repr

/-- What a database or the way to it reports. -/
inductive DriverError where
  | rowNotFound
  | poolTimedOut
  | poolClosed
  | workerCrashed
  | io (text : String)
  | tls (text : String)
  | configuration (text : String)
  | protocol (text : String)
  | columnNotFound (name : String)
  | decode (text : String)
  | database (text : String) (violation : Violation) (constraint : Option String)
deriving DecidableEq, Repr

def DriverError.message : DriverError → String
  | .rowNotFound => "no rows returned by a query that expected to return at least one row"
  | .poolTimedOut => "pool timed out while waiting for an open connection"
  | .poolClosed => "attempted to acquire a connection on a closed pool"
  | .workerCrashed => "attempted to communicate with a crashed background worker"
  | .io text => "error communicating with database: " ++ text
  | .tls text => "error occurred while attempting to establish a TLS connection: " ++ text
  | .configuration text => "error with configuration: " ++ text
  | .protocol text => "encountered unexpected or invalid data: " ++ text
  | .columnNotFound name => "no column found for name: " ++ name
  | .decode text => "error occurred while decoding: " ++ text
  | .database text _ _ => "error returned from database: " ++ text

/-- Why a store did not do what it was asked to. -/
inductive StoreError where
  | connection (cause : DriverError)
  | query (cause : DriverError)
  | migration (text : String)
  | configuration (text : String)
  | notFound
  | uniqueViolation (constraint : String)
  | foreignKeyViolation (constraint : String)
deriving DecidableEq, Repr

namespace StoreError

/-- The class of a driver's report. A broken rule is named by its constraint, which may be
unknown. -/
def ofDriver : DriverError → StoreError
  | .rowNotFound => .notFound
  | .poolTimedOut => .connection .poolTimedOut
  | .poolClosed => .connection .poolClosed
  | .io text => .connection (.io text)
  | .database _ .unique constraint => .uniqueViolation (constraint.getD "")
  | .database _ .foreignKey constraint => .foreignKeyViolation (constraint.getD "")
  | cause => .query cause

def message : StoreError → String
  | .connection cause => "Database connection error: " ++ cause.message
  | .query cause => "Database query error: " ++ cause.message
  | .migration text => "Database migration error: " ++ text
  | .configuration text => "Database configuration error: " ++ text
  | .notFound => "Resource not found"
  | .uniqueViolation constraint => "Duplicate key violates unique constraint " ++ constraint
  | .foreignKeyViolation constraint => "Foreign key constraint " ++ constraint ++ " violated"

/-- The error is that of the named constraint, which wants values to be unique. -/
def isUniqueViolationOf (name : String) : StoreError → Bool
  | .uniqueViolation constraint => constraint = name
  | _ => false

end StoreError

end Agora
