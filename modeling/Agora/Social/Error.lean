import Agora.Exchange.Basic
import Agora.Feed.Query
import Agora.Http.Message

/-!
# Why the service refuses

A `ServiceError` is what a client is told. The parts of the service have errors of their own,
which are turned into it: a store error keeps its class on every way, and nothing of its text is
ever told.
-/

namespace Agora.Social

/-- Why an operation was refused or failed. -/
inductive ServiceError where
  | validation (text : String)
  | unauthenticated
  | forbidden
  | notFound (text : String)
  | conflict (text : String)
  | cancelled
  | internal
  | store (error : StoreError)
deriving DecidableEq

/-- Why it could not be decided whether a caller may do something. -/
inductive AccessError where
  | unknownRole (name : String)
  | cancelled
  | store (error : StoreError)
deriving DecidableEq

/-- Why a user could not be had. -/
inductive ResolveError where
  | notFound (id : Int)
  | cancelled
  | store (error : StoreError)
deriving DecidableEq

def AccessError.message : AccessError → String
  | .unknownRole name => "unknown role '" ++ name ++ "'"
  | .cancelled => "request deadline exceeded"
  | .store error => "role lookup failed: " ++ error.message

def AccessError.ofFailure : Failure → AccessError
  | .cancelled => .cancelled
  | .store error => .store error

/-- What is said of a user that is not there. -/
def userNotFound (id : Int) : String := "user " ++ Decimal.text id ++ " not found"

def ResolveError.message : ResolveError → String
  | .notFound id => userNotFound id
  | .cancelled => "request deadline exceeded"
  | .store error => "user lookup failed: " ++ error.message

def ResolveError.ofFailure : Failure → ResolveError
  | .cancelled => .cancelled
  | .store error => .store error

namespace ServiceError

def message : ServiceError → String
  | .validation text | .notFound text | .conflict text => text
  | .unauthenticated => "Unauthorized"
  | .forbidden => "Forbidden"
  | .cancelled => "Request cancelled"
  | .internal => "Internal server error"
  | .store error => "Database error: " ++ error.message

def ofFailure : Failure → ServiceError
  | .cancelled => .cancelled
  | .store error => .store error

def ofQuery (e : Feed.QueryError) : ServiceError := .validation e.message

/-- A role that does not exist is a fault of the service. -/
def ofAccess : AccessError → ServiceError
  | .unknownRole _ => .internal
  | .cancelled => .cancelled
  | .store error => .store error

def ofResolve : ResolveError → ServiceError
  | .notFound id => .notFound (userNotFound id)
  | .cancelled => .cancelled
  | .store error => .store error

/-- What a client is told. Of the errors of a store only a missing row and a value that is taken
are told apart. -/
def response : ServiceError → Http.Response
  | .validation text => .error 400 text
  | .unauthenticated => .error 401 "Unauthorized"
  | .forbidden => .error 403 "Forbidden"
  | .notFound text => .error 404 text
  | .conflict text => .error 409 text
  | .cancelled => .error 503 "Request cancelled"
  | .internal => .error 500 "Internal server error"
  | .store .notFound => .error 404 "Resource not found"
  | .store (.uniqueViolation _) => .error 409 "Resource already exists"
  | .store _ => .error 500 "Internal server error"

end ServiceError

end Agora.Social
