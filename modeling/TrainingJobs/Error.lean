/-
What can go wrong, by cause.

Callers ask three things of an error: whether the object was gone already, whether the request may still take
effect, and whether something else got there first. The platform answers a failed request with a status of its
own, from whose code and reason the same three questions are answered.
-/
import TrainingJobs.Text.Quoted

set_option autoImplicit false

namespace TrainingJobs

/-- The platform's answer to a request that it refuses. -/
structure ApiFailure where
  status : String
  message : String
  /-- Why, for programs. -/
  reason : String
  code : Nat
  deriving DecidableEq, Repr, Inhabited

/-- Why an operation of the operator failed. -/
inductive OperatorError where
  | api (failure : ApiFailure)
  /-- The request could not be made or its answer could not be read. -/
  | exchange
  | notFound (kind name ns : String)
  /-- There was no answer in time. The request may still take effect. -/
  | timeout (what : String)
  /-- A key or a template does not have what it should have. -/
  | invalidConfig (what : String)
  | validation (what : String)
  | reconcile (kind name cause : String)
  | serialization (what : String)
  deriving DecidableEq, Repr, Inhabited

namespace ApiFailure

def describe (f : ApiFailure) : String :=
  "ApiError: " ++ f.message ++ ": " ++ f.reason ++ " (ErrorResponse \x7b status: " ++ Text.quoted f.status
    ++ ", message: " ++ Text.quoted f.message ++ ", reason: " ++ Text.quoted f.reason
    ++ ", code: " ++ toString f.code ++ " \x7d)"

/-- The answer to the creation of an object whose name is taken (`already_exists`). -/
def alreadyExists (collection name : String) : ApiFailure where
  status := "Failure"
  message := collection ++ " \"" ++ name ++ "\" already exists"
  reason := "AlreadyExists"
  code := 409

end ApiFailure

namespace OperatorError

def message : OperatorError → String
  | api failure => "Kubernetes API error: " ++ failure.describe
  | exchange => "Kubernetes API error"
  | notFound kind name ns => "Resource not found: " ++ kind ++ "/" ++ name ++ " in namespace " ++ ns
  | timeout what => "Request timed out: " ++ what
  | invalidConfig what => "Invalid configuration: " ++ what
  | validation what => "XGBoostJob validation failed: " ++ what
  | reconcile kind name cause => "Reconciliation failed for " ++ kind ++ "/" ++ name ++ ": " ++ cause
  | serialization what => "Serialization error: " ++ what

/-- Whether the error says that the object is gone already (`is_not_found`). -/
def isNotFound : OperatorError → Bool
  | notFound .. => true
  | api failure => failure.code == 404
  | _ => false

/-- Whether the error says that there was no answer in time (`is_timeout`). -/
def isTimeout : OperatorError → Bool
  | timeout _ => true
  | api failure => failure.code == 504 || failure.reason == "Timeout" || failure.reason == "ServerTimeout"
  | _ => false

/-- Whether the error says that something else got there first (`is_conflict`). -/
def isConflict : OperatorError → Bool
  | api failure => failure.code == 409
  | _ => false

end OperatorError

end TrainingJobs
