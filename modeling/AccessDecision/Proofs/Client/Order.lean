import AccessDecision.Call
import AccessDecision.Proofs.Outcome

set_option autoImplicit false

/-! # Every call is an order

The six operations differ in what they check, in the body they send to which service, in whether
they can be given up, and in how they read the body of a successful answer. An `Order` holds these
differences and `Client.order` checks the input; the rest is the same for all (`perform_eq`). So
what a call returns, sends and leaves behind is said once (`result_perform`, `requests_perform`,
`state_perform`). The input is valid exactly if there is an order for it (`exists_order_iff`). -/

namespace AccessDecision

open AccessDecision.Outcome

/-! ## Valid input -/

/-- What can be sent as the free-form part of a request. -/
def Attachment.Sendable (a : Attachment) : Prop :=
  ∃ v, a.toJson = .ok v ∧ (v = .null ∨ v.isStructured = true)

namespace Call

/-- Input that passes the checks. A request that is already built has passed them. -/
def Valid : Call → Prop
  | .evaluate subject resource action details | .simulate subject resource action details =>
    (Text.isBlank subject = false ∧ Text.isBlank resource = false ∧ Text.isBlank action = false) ∧
      details.Sendable
  | .evaluateRequest _ | .evaluateCancellable _ => True
  | .compile text | .validatePolicy text => Text.isBlank text = false

def service : Call → Client.Service
  | .evaluate .. | .evaluateRequest _ | .evaluateCancellable _ => .checkAccess
  | .simulate .. => .simulate
  | .compile _ => .compile
  | .validatePolicy _ => .validatePolicy

/-- Whether the call has a cancellation token. -/
def cancellable : Call → Bool
  | .evaluateCancellable _ => true
  | _ => false

end Call

namespace Request

variable {subject resource action : String} {details : Attachment}

theorem exists_required_iff (name value : String) :
    (∃ s, required name value = .ok s) ↔ Text.isBlank value = false := by
  unfold required
  by_cases h : Text.isBlank value = false
  · simp [h]
  · simp [h]

theorem exists_make_iff (purpose : Purpose) :
    (∃ r, make purpose subject resource action = .ok r) ↔
      Text.isBlank subject = false ∧ Text.isBlank resource = false ∧
        Text.isBlank action = false := by
  rw [← exists_required_iff "subject" subject, ← exists_required_iff "resource" resource,
    ← exists_required_iff "action" action]
  simp only [make, bind_eq_ok_iff]
  constructor
  · rintro ⟨r, s, hs, t, ht, a, ha, -⟩
    exact ⟨⟨s, hs⟩, ⟨t, ht⟩, ⟨a, ha⟩⟩
  · rintro ⟨⟨s, hs⟩, ⟨t, ht⟩, ⟨a, ha⟩⟩
    exact ⟨_, s, hs, t, ht, a, ha, rfl⟩

theorem exists_structured_iff (purpose : Purpose) :
    (∃ v, structured purpose details = .ok v) ↔ details.Sendable := by
  unfold structured Attachment.Sendable
  split
  all_goals simp_all [Json.isStructured]

theorem exists_withDetails_iff {purpose : Purpose} (r : Request purpose) :
    (∃ r', r.withDetails details = .ok r') ↔ details.Sendable := by
  rw [← exists_structured_iff purpose]
  simp only [withDetails, bind_eq_ok_iff]
  constructor
  · rintro ⟨r', v, hv, -⟩
    exact ⟨v, hv⟩
  · rintro ⟨v, hv⟩
    exact ⟨_, v, hv, rfl⟩

/-- A request is built from texts that are not blank and details that can be sent. -/
theorem exists_make_withDetails_iff (purpose : Purpose) :
    (∃ r, (make purpose subject resource action).bind (·.withDetails details) = .ok r) ↔
      (Text.isBlank subject = false ∧ Text.isBlank resource = false ∧
        Text.isBlank action = false) ∧ details.Sendable := by
  rw [← exists_make_iff purpose]
  constructor
  · rintro ⟨r', h⟩
    obtain ⟨r, hr, hr'⟩ := bind_eq_ok_iff.1 h
    exact ⟨⟨r, hr⟩, r.exists_withDetails_iff.1 ⟨r', hr'⟩⟩
  · rintro ⟨⟨r, hr⟩, hdetails⟩
    obtain ⟨r', hr'⟩ := r.exists_withDetails_iff.2 hdetails
    exact ⟨r', bind_eq_ok_iff.2 ⟨r, hr, hr'⟩⟩

end Request

namespace Client

variable {c : Client} {call : Call} {s : Situation} {state : Cache.State}

/-! ## Orders -/

/-- What a call sends, and how it reads the body of a successful answer. -/
structure Order where
  body : Bytes
  interpret : Bytes → Except EvaluationError Answer × List Event

def accessOrder (c : Client) (request : Request .access) : Order :=
  let request := request.withDefaultTenant c.config.tenant
  { body := Text.Utf8.encode request.text
    interpret := fun body =>
      match Decision.read body with
      | .error error => (.error error, [])
      | .ok decision => (.ok (.decision decision),
          [.decided request.subject request.resource request.action decision.allowed]) }

def simulationOrder (c : Client) (request : Request .simulation) : Order where
  body := Text.Utf8.encode (request.withDefaultTenant c.config.tenant).text
  interpret := fun body => ((Decision.read body).map .decision, [])

def compileOrder (c : Client) (rule : String) : Order where
  body := c.document "rule" rule
  interpret := fun body =>
    (((Text.Utf8.decode body).mapError fun fault => .deserialization fault.message).map .policy, [])

def validationOrder (c : Client) (policy : String) : Order where
  body := c.document "policy" policy
  interpret := fun _ => (.ok .valid, [])

/-- The order of a call, or why its input is refused. -/
def order (c : Client) : Call → Except EvaluationError Order
  | .evaluate subject resource action conditions =>
    ((Request.make .access subject resource action).bind (·.withDetails conditions)).map
      c.accessOrder
  | .evaluateRequest request | .evaluateCancellable request => .ok (c.accessOrder request)
  | .simulate subject resource action context =>
    ((Request.make .simulation subject resource action).bind (·.withDetails context)).map
      c.simulationOrder
  | .compile rule =>
    if Text.isBlank rule then .error (.invalidRequest "rule must not be empty")
    else .ok (c.compileOrder rule)
  | .validatePolicy policy =>
    if Text.isBlank policy then .error (.invalidRequest "policy must not be empty")
    else .ok (c.validationOrder policy)

/-- Input is valid exactly if there is an order for it. -/
theorem exists_order_iff : (∃ order, c.order call = .ok order) ↔ call.Valid := by
  have hmap {α : Type} {x : Except EvaluationError α} {f : α → Order} :
      (∃ order, x.map f = .ok order) ↔ ∃ a, x = .ok a := by
    simp only [map_eq_ok_iff]
    constructor
    · rintro ⟨order, a, ha, -⟩
      exact ⟨a, ha⟩
    · rintro ⟨a, ha⟩
      exact ⟨f a, a, ha, rfl⟩
  cases call with
  | evaluate subject resource action details =>
    rw [order, hmap]
    exact Request.exists_make_withDetails_iff _
  | evaluateRequest request => exact ⟨fun _ => trivial, fun _ => ⟨_, rfl⟩⟩
  | evaluateCancellable request => exact ⟨fun _ => trivial, fun _ => ⟨_, rfl⟩⟩
  | simulate subject resource action details =>
    rw [order, hmap]
    exact Request.exists_make_withDetails_iff _
  | compile rule =>
    rw [order, Call.Valid]
    cases Text.isBlank rule <;> simp
  | validatePolicy policy =>
    rw [order, Call.Valid]
    cases Text.isBlank policy <;> simp

/-! ## Carrying out an order -/

/-- The outcome of an order: its body is sent, and the body of a successful answer is read. -/
def carryOut (c : Client) (call : Call) (order : Order) (s : Situation) (state : Cache.State) :
    Outcome Answer :=
  (c.post call.service order.body call.cancellable s state).andThen order.interpret

/-- Reading a result and renaming it is one step. -/
theorem Outcome.map_andThen {α β γ : Type} (o : Outcome α)
    (next : α → Except EvaluationError β × List Event) (f : β → γ) :
    (o.andThen next).map f = o.andThen fun a => ((next a).1.map f, (next a).2) := by
  unfold andThen Outcome.map
  cases o.result with
  | error e => rfl
  | ok a => rfl

theorem map_evaluateRequest (c : Client) (request : Request .access) (cancellable : Bool)
    (s : Situation) (state : Cache.State) :
    (c.evaluateRequest request cancellable s state).map .decision =
      (c.post .checkAccess (c.accessOrder request).body cancellable s state).andThen
        (c.accessOrder request).interpret := by
  rw [evaluateRequest, Outcome.map_andThen]
  congr 1
  funext body
  simp only [accessOrder]
  cases Decision.read body with
  | error e => rfl
  | ok d => rfl

/-- Every call is refused for its input or carried out as an order. -/
theorem perform_eq (c : Client) (call : Call) (s : Situation) (state : Cache.State) :
    c.perform call s state =
      match c.order call with
      | .error error => .refused error state
      | .ok order => c.carryOut call order s state := by
  cases call with
  | evaluate subject resource action details =>
    simp only [perform, evaluate, order]
    cases (Request.make .access subject resource action).bind (·.withDetails details) with
    | error e => rfl
    | ok request => exact c.map_evaluateRequest request false s state
  | evaluateRequest request => exact c.map_evaluateRequest request false s state
  | evaluateCancellable request => exact c.map_evaluateRequest request true s state
  | simulate subject resource action details =>
    simp only [perform, simulate, order]
    cases (Request.make .simulation subject resource action).bind (·.withDetails details) with
    | error e => rfl
    | ok request => exact Outcome.map_andThen ..
  | compile rule =>
    simp only [perform, compile, order]
    cases Text.isBlank rule with
    | true => rfl
    | false =>
      simp only [Bool.false_eq_true, if_false]
      exact Outcome.map_andThen ..
  | validatePolicy policy =>
    simp only [perform, validatePolicy, order]
    cases Text.isBlank policy with
    | true => rfl
    | false =>
      simp only [Bool.false_eq_true, if_false]
      exact Outcome.map_andThen ..

/-! ## What a call returns, sends and leaves behind -/

/-- The exchange of a call that has a credential. A token that has fired by then stops it. -/
def send (c : Client) (call : Call) (order : Order) (credential : Credential) (s : Situation) :
    Except Http.Failure (Nat × Bytes) × List Http.Request :=
  if call.cancellable && s.cancelled then (.error .cancelled, [])
  else match c.authenticated (c.urlFor call.service) order.body credential.token s.correlation with
    | .error failure => (.error failure, [])
    | .ok request => Http.exchange s.network call.cancellable request

/-- What is returned for a status and a body. -/
def Order.answer (order : Order) (status : Nat) (body : Bytes) : Except EvaluationError Answer :=
  if Http.isSuccess status then (order.interpret body).1
  else .error (.service status (Text.Utf8.decodeLossy body))

/-- What a call makes of its exchange, before it reads the body of a success. -/
def conclude (url : String) (correlation : CorrelationId) (log : List Event) (after : Cache.State)
    (exchanged : Except Http.Failure (Nat × Bytes) × List Http.Request) : Outcome Bytes :=
  match exchanged with
  | (.error failure, requests) => ⟨.error failure.toError,
      log ++ [.requestIncomplete url correlation.text failure.toError.message], requests, after⟩
  | (.ok (status, body), requests) =>
    if Http.isSuccess status then ⟨.ok body, log, requests, after⟩
    else ⟨.error (.service status (Text.Utf8.decodeLossy body)),
      log ++ [.requestRejected url status correlation.text], requests, after⟩

/-- With a credential, the exchange decides the rest. -/
theorem post_of_issue (call : Call) (order : Order) {credential : Credential} {log : List Event}
    {after : Cache.State} (h : c.source.issue s.now state = (.ok credential, log, after)) :
    c.post call.service order.body call.cancellable s state =
      conclude (c.urlFor call.service) s.correlation (log ++ [.requestSent (c.urlFor call.service)
        credential.claims.clientId s.correlation.text]) after (c.send call order credential s) := by
  unfold post send conclude
  rw [h]
  cases call.cancellable && s.cancelled with
  | true => rfl
  | false =>
    simp only [Bool.false_eq_true, if_false]
    cases c.authenticated (c.urlFor call.service) order.body credential.token s.correlation with
    | error failure => rfl
    | ok request =>
      simp only
      rcases Http.exchange s.network call.cancellable request with
        ⟨failure | ⟨status, body⟩, requests⟩
      · rfl
      · rfl

/-- The result of an exchange, what it sent and what it left behind. -/
theorem parts_conclude (url : String) (correlation : CorrelationId) (log : List Event)
    (after : Cache.State)
    (exchanged : Except Http.Failure (Nat × Bytes) × List Http.Request) :
    (conclude url correlation log after exchanged).result = (do
        let (status, body) ← exchanged.1.mapError Http.Failure.toError
        if Http.isSuccess status then .ok body
        else .error (.service status (Text.Utf8.decodeLossy body))) ∧
      (conclude url correlation log after exchanged).requests = exchanged.2 ∧
      (conclude url correlation log after exchanged).state = after := by
  rcases exchanged with ⟨failure | ⟨status, body⟩, requests⟩
  · exact ⟨rfl, rfl, rfl⟩
  · simp only [conclude, mapError_ok, ok_bind]
    cases Http.isSuccess status with
    | true => exact ⟨rfl, rfl, rfl⟩
    | false => exact ⟨rfl, rfl, rfl⟩

theorem Outcome.result_andThen {α β : Type} (o : Outcome α)
    (next : α → Except EvaluationError β × List Event) :
    (o.andThen next).result = o.result >>= fun a => (next a).1 := by
  unfold andThen
  cases o.result with
  | error e => rfl
  | ok a => rfl

/-- Reading an answer sends nothing and leaves the credentials alone. -/
theorem Outcome.kept_andThen {α β : Type} (o : Outcome α)
    (next : α → Except EvaluationError β × List Event) :
    (o.andThen next).requests = o.requests ∧ (o.andThen next).state = o.state := by
  unfold andThen
  cases o.result with
  | error e => exact ⟨rfl, rfl⟩
  | ok a => exact ⟨rfl, rfl⟩

/-- A call whose input is refused leaves no trace. -/
theorem perform_of_refused {error : EvaluationError} (h : c.order call = .error error) :
    c.perform call s state = .refused error state := by
  rw [perform_eq, h]

/-- A call without a credential sends nothing. -/
theorem perform_of_no_credential {order : Order} {error : CredentialError} {log : List Event}
    {after : Cache.State} (horder : c.order call = .ok order)
    (hissue : c.source.issue s.now state = (.error error, log, after)) :
    c.perform call s state = ⟨.error (.credential error), log, [], after⟩ := by
  rw [perform_eq, horder]
  simp only [carryOut, post, hissue]
  rfl

/-- A call with a credential concludes its exchange and reads the answer. -/
theorem perform_eq_conclude {order : Order} {credential : Credential} {log : List Event}
    {after : Cache.State} (horder : c.order call = .ok order)
    (hissue : c.source.issue s.now state = (.ok credential, log, after)) :
    c.perform call s state =
      (conclude (c.urlFor call.service) s.correlation (log ++ [.requestSent (c.urlFor call.service)
        credential.claims.clientId s.correlation.text]) after
        (c.send call order credential s)).andThen order.interpret := by
  rw [perform_eq, horder]
  dsimp only
  rw [carryOut, post_of_issue call order hissue]

/-- A call with a credential returns, sends and leaves behind what its exchange amounts to. -/
theorem perform_of_issue {order : Order} {credential : Credential} {log : List Event}
    {after : Cache.State} (horder : c.order call = .ok order)
    (hissue : c.source.issue s.now state = (.ok credential, log, after)) :
    (c.perform call s state).result = (do
        let (status, body) ← (c.send call order credential s).1.mapError Http.Failure.toError
        order.answer status body) ∧
      (c.perform call s state).requests = (c.send call order credential s).2 ∧
      (c.perform call s state).state = after := by
  rw [perform_eq_conclude horder hissue]
  obtain ⟨hresult, hrequests, hstate⟩ := parts_conclude (c.urlFor call.service) s.correlation
    (log ++ [.requestSent (c.urlFor call.service) credential.claims.clientId s.correlation.text])
    after (c.send call order credential s)
  rw [(Outcome.kept_andThen _ order.interpret).1, (Outcome.kept_andThen _ order.interpret).2,
    Outcome.result_andThen, hresult]
  refine ⟨?_, hrequests, hstate⟩
  cases (c.send call order credential s).1 with
  | error failure => rfl
  | ok answer =>
    simp only [mapError_ok, ok_bind, Order.answer]
    cases Http.isSuccess answer.1 with
    | true => rfl
    | false => rfl

end Client

end AccessDecision
