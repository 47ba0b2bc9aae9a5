import Agora.Exchange.Basic
import Agora.Http.Message

/-!
# Why the account service refuses

Unknown emails, wrong passwords and inactive accounts are one and the same to a client. Store
errors are told apart only where a registration finds its email or its username taken.
-/

namespace Agora.Account

inductive AccountError where
  | validation (text : String)
  | unauthorized
  | conflict (text : String)
  | notFound (text : String)
  | internal
  | store (error : StoreError)
deriving DecidableEq

namespace AccountError

def message : AccountError → String
  | .validation text | .conflict text | .notFound text => text
  | .unauthorized => "Unauthorized"
  | .internal => "Internal server error"
  | .store error => "Database error: " ++ error.message

/-- Calls of this service are never cut. -/
def ofFailure : Failure → AccountError
  | .cancelled => .internal
  | .store error => .store error

/-- What a client is told. -/
def response : AccountError → Http.Response
  | .validation text => .error 400 text
  | .unauthorized => .error 401 "Unauthorized"
  | .conflict text => .error 409 text
  | .notFound text => .error 404 text
  | .internal | .store _ => .error 500 "Internal server error"

end AccountError

end Agora.Account
