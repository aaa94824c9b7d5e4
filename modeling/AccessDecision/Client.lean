import AccessDecision.Config
import AccessDecision.CorrelationId
import AccessDecision.Credential.Cache
import AccessDecision.Decision
import AccessDecision.Http.Authorization
import AccessDecision.Http.Exchange
import AccessDecision.Request

set_option autoImplicit false

/-! # The client

A client asks the service for decisions, and to compile and check policies. Every call goes through
the same stages: the input is checked, a credential is obtained, one authenticated request goes out,
and the answer is read. The first stage that fails decides the outcome, and nothing is tried twice.

What a call meets is a `Situation`, and what it leaves is an `Outcome`; between calls only the state
of the credentials is kept. -/

namespace AccessDecision

/-! ## Clients -/

structure Client where
  config : Config
  /-- The URL that the configuration names. -/
  endpoint : Url
  /-- The headers that the configuration names. -/
  headers : Http.Headers
  source : Source

namespace Config

/-- The URL of the service, which must be one of HTTP. -/
def endpointUrl (c : Config) : Except EvaluationError Url :=
  match Url.read c.endpoint with
  | .error e =>
    .error (.configuration ("invalid endpoint '" ++ c.endpoint ++ "': " ++ e.message))
  | .ok url =>
    if Http.isWeb url then .ok url
    else .error (.configuration
      ("endpoint scheme must be http or https, got '" ++ String.ofList url.scheme ++ "'"))

/-- A header of the configuration. -/
def header (name value : String) : Except EvaluationError Http.Header :=
  (Http.Header.of name value).mapError fun fault =>
    let what := match fault with
      | .invalidName => "invalid header name '"
      | .invalidValue => "invalid value for header '"
    .configuration (what ++ name ++ "': " ++ fault.message)

end Config

namespace Client

/-- The client of a configuration. The endpoint is checked first, then the headers in their order,
then the timeout. -/
def make (config : Config) (source : Source) : Except EvaluationError Client := do
  let endpoint ← config.endpointUrl
  let headers ← config.headers.mapM fun (name, value) => Config.header name value
  if config.timeoutSeconds = some 0 then
    .error (.configuration "timeout must be at least one second")
  else .ok ⟨config, endpoint, headers, source⟩

/-- The client as diagnostics show it. -/
def diagnostic (c : Client) : String :=
  "PolicyClient \x7b endpoint: " ++ Text.quoted c.endpoint.text ++ ", tenant_id: " ++
    Text.optional (c.config.tenant.map Text.quoted) ++ ", timeout_seconds: " ++
    Text.optional (c.config.timeoutSeconds.map fun s => Text.natText s.toNat) ++ ", .. \x7d"

/-! ## Calls -/

/-- What a call meets. -/
structure Situation where
  now : Instant
  correlation : CorrelationId
  network : Http.Network
  /-- Whether the cancellation token had fired before the call. -/
  cancelled : Bool := false

/-- What a call leaves. -/
structure Outcome (α : Type) where
  result : Except EvaluationError α
  log : List Event
  /-- The requests that reached a host. -/
  requests : List Http.Request
  state : Cache.State

namespace Outcome

variable {α β : Type}

/-- A call that fails before anything is done. -/
def refused (error : EvaluationError) (state : Cache.State) : Outcome α :=
  ⟨.error error, [], [], state⟩

/-- Goes on with the result of a call, which may fail or add to the log. -/
def andThen (o : Outcome α) (next : α → Except EvaluationError β × List Event) : Outcome β :=
  match o.result with
  | .error error => { o with result := .error error }
  | .ok a =>
    let (result, log) := next a
    { o with result, log := o.log ++ log }

end Outcome

/-- What the service can be asked to do. -/
inductive Service where
  | checkAccess
  | simulate
  | compile
  | validatePolicy
  deriving DecidableEq, Repr

def Service.path : Service → String
  | .checkAccess => "check-access"
  | .simulate => "simulate"
  | .compile => "compile"
  | .validatePolicy => "validate-policy"

/-- The URL of a service: its path follows the endpoint, less the slashes at its end. -/
def urlFor (c : Client) (service : Service) : String :=
  String.ofList ((c.endpoint.chars.reverse.dropWhile (· = '/')).reverse) ++ "/" ++ service.path

def contentTypeName : String := "Content-Type"
def authorizationName : String := "Authorization"
def correlationName : String := "X-Correlation-ID"

/-- The headers that go with every request: any content may come back, unless the configuration says
otherwise. Of several values of one name the last one counts. -/
def defaultHeaders (c : Client) : Http.Headers :=
  c.headers.foldl Http.Headers.set (Http.Header.of "accept" "*/*").toOption.toList

/-- The request that carries a body and a token to a URL. The name and the password of the URL go
along as a header of their own, and the headers of the configuration do not touch those that are set
here. -/
def authenticated (c : Client) (url : String) (body : Bytes) (token : String)
    (correlation : CorrelationId) : Except Http.Failure Http.Request :=
  let refused : Http.Failure := .unsendable none
  match Url.read url with
  | .error _ => .error refused
  | .ok url => do
    let userInfo := Http.userInfo? url
    let basic := userInfo.map fun (name, password) =>
      (authorizationName, Http.basic name password)
    let own ← (basic.toList ++ [(contentTypeName, "application/json"),
        (authorizationName, Http.bearer token), (correlationName, correlation.text)]).mapM
      fun (name, value) => (Http.Header.of name value).mapError fun _ => refused
    .ok {
      method := .post
      url := if userInfo.isSome then url.withoutUserInfo else url
      headers := Http.Headers.complete own c.defaultHeaders
      body }

/-- Sends a body to a service and returns the body of a successful answer. The token of a call that
can be cancelled is looked at whenever something happens. -/
def post (c : Client) (service : Service) (body : Bytes) (cancellable : Bool) (s : Situation)
    (state : Cache.State) : Outcome Bytes :=
  match c.source.issue s.now state with
  | (.error error, log, state) => ⟨.error (.credential error), log, [], state⟩
  | (.ok credential, log, state) =>
    let url := c.urlFor service
    let log := log ++ [.requestSent url credential.claims.clientId s.correlation.text]
    let (answer, requests) :=
      if cancellable && s.cancelled then (.error .cancelled, [])
      else match c.authenticated url body credential.token s.correlation with
        | .error failure => (.error failure, [])
        | .ok request => Http.exchange s.network cancellable request
    match answer with
    | .error failure =>
      let error := failure.toError
      ⟨.error error, log ++ [.requestIncomplete url s.correlation.text error.message], requests,
        state⟩
    | .ok (status, body) =>
      if Http.isSuccess status then ⟨.ok body, log, requests, state⟩
      else ⟨.error (.service status (Text.Utf8.decodeLossy body)),
        log ++ [.requestRejected url status s.correlation.text], requests, state⟩

/-! ## What the service is asked -/

/-- Asks for a decision. A request without a tenant is on behalf of the configured one. -/
def evaluateRequest (c : Client) (request : Request .access) (cancellable : Bool) (s : Situation)
    (state : Cache.State) : Outcome Decision :=
  let request := request.withDefaultTenant c.config.tenant
  (c.post .checkAccess (Text.Utf8.encode request.text) cancellable s state).andThen fun body =>
    match Decision.read body with
    | .error error => (.error error, [])
    | .ok decision =>
      (.ok decision,
        [.decided request.subject request.resource request.action decision.allowed])

/-- Asks whether a subject may act on a resource. -/
def evaluate (c : Client) (subject resource action : String) (conditions : Attachment)
    (s : Situation) (state : Cache.State) : Outcome Decision :=
  match (Request.make .access subject resource action).bind (·.withDetails conditions) with
  | .error error => .refused error state
  | .ok request => c.evaluateRequest request false s state

/-- Asks what would be decided in a given context. -/
def simulate (c : Client) (subject resource action : String) (context : Attachment)
    (s : Situation) (state : Cache.State) : Outcome Decision :=
  match (Request.make .simulation subject resource action).bind (·.withDetails context) with
  | .error error => .refused error state
  | .ok request =>
    let request := request.withDefaultTenant c.config.tenant
    (c.post .simulate (Text.Utf8.encode request.text) false s state).andThen fun body =>
      (Decision.read body, [])

/-- A text for the service, by its name, and the tenant if there is one. -/
def document (c : Client) (name text : String) : Bytes :=
  Text.Utf8.encode (Json.object ((c.config.tenant.toList.map fun tenant =>
    ("tenantID", Json.string tenant)) ++ [(name, .string text)])).text

/-- Asks for the policy that a rule in plain words amounts to. -/
def compile (c : Client) (rule : String) (s : Situation) (state : Cache.State) : Outcome String :=
  if Text.isBlank rule then .refused (.invalidRequest "rule must not be empty") state
  else (c.post .compile (c.document "rule" rule) false s state).andThen fun body =>
    ((Text.Utf8.decode body).mapError fun fault => .deserialization fault.message, [])

/-- Asks whether a policy is one that the service could load. -/
def validatePolicy (c : Client) (policy : String) (s : Situation) (state : Cache.State) :
    Outcome Unit :=
  if Text.isBlank policy then .refused (.invalidRequest "policy must not be empty") state
  else (c.post .validatePolicy (c.document "policy" policy) false s state).andThen fun _ =>
    (.ok (), [])

end Client

end AccessDecision
