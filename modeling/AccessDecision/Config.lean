import AccessDecision.Credential.Identity
import AccessDecision.EvaluationError

set_option autoImplicit false

/-! # Configuration

A client needs to know where the service is, on whose behalf it asks, how long it waits and which
headers it adds. The first three can be looked up by name, in the environment or elsewhere; a blank
value counts as none, and white space around a value is dropped. The identity is looked up as it is.
-/

namespace AccessDecision

structure Config where
  endpoint : String
  tenant : Option String
  /-- How long a call may take; `none` is without end. -/
  timeoutSeconds : Option UInt64
  /-- Headers added to every request. -/
  headers : List (String × String)
  deriving DecidableEq

namespace Config

def endpointName : String := "AUTHZ_ENDPOINT"
def tenantName : String := "AUTHZ_TENANT_ID"
def timeoutName : String := "AUTHZ_TIMEOUT_SECONDS"
def clientIdName : String := "CLIENT_ID"
def clientSecretName : String := "CLIENT_SECRET"

/-- The configuration where nothing is set. -/
def default : Config where
  endpoint := "http://localhost:8080"
  tenant := none
  timeoutSeconds := some 30
  headers := []

/-- The value of a name, trimmed, unless it is blank. -/
def setting (lookup : String → Option String) (name : String) : Option String :=
  ((lookup name).filter fun value => !Text.isBlank value).map Text.trim

/-- A timeout of at least one second. -/
def timeout (value : String) : Except EvaluationError UInt64 :=
  match Text.readBounded 0x10000000000000000 value with
  | .error fault => .error (.configuration
      (timeoutName ++ " must be a whole number of seconds: " ++ fault.message))
  | .ok seconds =>
    if seconds = 0 then .error (.configuration (timeoutName ++ " must be at least one second"))
    else .ok (UInt64.ofNat seconds)

/-- The configuration of the values that a lookup finds. -/
def ofLookup (lookup : String → Option String) : Except EvaluationError Config := do
  let timeoutSeconds ← match setting lookup timeoutName with
    | none => .ok default.timeoutSeconds
    | some value => (timeout value).map some
  .ok { default with
    endpoint := (setting lookup endpointName).getD default.endpoint
    tenant := setting lookup tenantName
    timeoutSeconds }

/-- The identity of the values that a lookup finds; what is not there is empty. -/
def identity (lookup : String → Option String) : Identity where
  clientId := (lookup clientIdName).getD ""
  clientSecret := (lookup clientSecretName).getD ""

/-- A lookup in an environment, whose values are bytes. One that is not UTF-8 is not found. -/
def environment (values : String → Option Bytes) (name : String) : Option String :=
  match values name with
  | none => none
  | some bytes =>
    match Text.Utf8.decode bytes with
    | .ok value => some value
    | .error _ => none

/-- The configuration as diagnostics show it. -/
def diagnostic (c : Config) : String :=
  let headers := c.headers.map fun (name, value) =>
    "(" ++ Text.quoted name ++ ", " ++ Text.quoted value ++ ")"
  "ClientConfig \x7b endpoint: " ++ Text.quoted c.endpoint ++ ", tenant_id: " ++
    Text.optional (c.tenant.map Text.quoted) ++ ", timeout_seconds: " ++
    Text.optional (c.timeoutSeconds.map fun s => Text.natText s.toNat) ++ ", headers: [" ++
    ", ".intercalate headers ++ "] \x7d"

end Config

end AccessDecision
