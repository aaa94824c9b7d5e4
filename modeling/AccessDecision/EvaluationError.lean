import AccessDecision.Credential.Error

set_option autoImplicit false

/-! # Why a call of the service fails -/

namespace AccessDecision

/-- Why an exchange with the service is not completed. -/
inductive TransportError where
  | connect (reason : String)
  | timeout (reason : String)
  | cancelled
  | other (reason : String)
  deriving DecidableEq, Repr

def TransportError.message : TransportError → String
  | .connect reason => "Failed to connect to authorization service: " ++ reason
  | .timeout reason => "Request to authorization service timed out: " ++ reason
  | .cancelled => "Request to authorization service was cancelled"
  | .other reason => "Request to authorization service failed: " ++ reason

inductive EvaluationError where
  | configuration (reason : String)
  | credential (error : CredentialError)
  | invalidRequest (reason : String)
  | serialization (reason : String)
  | deserialization (reason : String)
  | transport (error : TransportError)
  /-- The service answered with a status that is no success. -/
  | service (status : Nat) (body : String)
  deriving DecidableEq, Repr

namespace EvaluationError

def message : EvaluationError → String
  | .configuration reason => "Client configuration is invalid: " ++ reason
  | .credential error => error.message
  | .invalidRequest reason => "Invalid policy request: " ++ reason
  | .serialization reason => "Failed to serialize request: " ++ reason
  | .deserialization reason => "Failed to deserialize response: " ++ reason
  | .transport error => error.message
  | .service status body =>
    "Authorization service responded with HTTP " ++ Text.natText status ++ ": " ++ body

/-- Whether the same call may succeed later: only if the exchange was not completed. -/
def isRetryable : EvaluationError → Bool
  | .transport _ => true
  | _ => false

/-- The status of the service's answer. -/
def status? : EvaluationError → Option Nat
  | .service status _ => some status
  | _ => none

end EvaluationError

end AccessDecision
