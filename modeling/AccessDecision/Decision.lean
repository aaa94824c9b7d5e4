import AccessDecision.EvaluationError
import AccessDecision.Json.Record

set_option autoImplicit false

/-! # Decisions

What the service answers: whether access is allowed, and perhaps why and by which policy. The
verdict and the policy's id go by two names each, of which an answer may use one. The whole answer
is kept. -/

namespace AccessDecision

structure Decision where
  allowed : Bool
  reason : Option String
  policyId : Option String
  /-- The answer as it was read. -/
  raw : Json

namespace Decision

def layout : Json.Layout where
  title := "DecisionBody"
  fields := [
    { name := "allowed", aliases := ["allow"], kind := .boolean },
    { name := "reason", kind := .optionalString, required := false },
    { name := "policy_id", aliases := ["policyID"], kind := .optionalString, required := false }]

/-- A text that is there and not empty. -/
def nonempty (s : Option String) : Option String := s.filter fun s => !s.isEmpty

/-- The decision of an answer. An empty reason or id is none. -/
def ofJson (raw : Json) : Except EvaluationError Decision :=
  let decision : Except Json.Cause Decision := layout.ofJson (fun a => do
    let allowed ← a.boolean "allowed"
    let reason ← a.optionalString "reason"
    let policyId ← a.optionalString "policy_id"
    .ok ⟨allowed, nonempty reason, nonempty policyId, raw⟩) raw
  decision.mapError fun cause => .deserialization cause.text

/-- The decision of the bytes of an answer. -/
def read (body : Bytes) : Except EvaluationError Decision :=
  match Json.read body with
  | .ok raw => ofJson raw
  | .error error => .error (.deserialization error.message)

end Decision

end AccessDecision
