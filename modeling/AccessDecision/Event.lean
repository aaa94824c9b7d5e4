import AccessDecision.Instant
import AccessDecision.Json.Basic

set_option autoImplicit false

/-! # The diagnostic log

What issuing credentials and calling the service leave in the log, in the order in which it happens.
No event holds a token or a secret. -/

namespace AccessDecision

inductive Event where
  | credentialIssued (clientId : String) (expiresAt : Instant)
  | requestSent (url clientId correlationId : String)
  | requestIncomplete (url correlationId error : String)
  | requestRejected (url : String) (status : Nat) (correlationId : String)
  | decided (subject resource action : String) (allowed : Bool)
  deriving DecidableEq

namespace Event

inductive Level where
  | debug
  | warn
  deriving DecidableEq, Repr

def Level.name : Level → String
  | .debug => "DEBUG"
  | .warn => "WARN"

def level : Event → Level
  | .requestRejected .. => .warn
  | _ => .debug

def message : Event → String
  | .credentialIssued .. => "issued credential"
  | .requestSent .. => "sending request to authorization service"
  | .requestIncomplete .. => "request did not complete"
  | .requestRejected .. => "authorization service rejected request"
  | .decided .. => "policy evaluated"

/-- The named values of an event. -/
def fields : Event → List (String × Json)
  | .credentialIssued clientId expiresAt =>
    [("client_id", .string clientId), ("expires_at", .string expiresAt.text)]
  | .requestSent url clientId correlationId =>
    [("url", .string url), ("client_id", .string clientId),
      ("correlation_id", .string correlationId)]
  | .requestIncomplete url correlationId error =>
    [("url", .string url), ("correlation_id", .string correlationId), ("error", .string error)]
  | .requestRejected url status correlationId =>
    [("url", .string url), ("status", ((Whole.ofInt? status).map Json.whole).getD .null),
      ("correlation_id", .string correlationId)]
  | .decided subject resource action allowed =>
    [("subject", .string subject), ("resource", .string resource), ("action", .string action),
      ("allowed", .bool allowed)]

end Event

end AccessDecision
