import AccessDecision.Proofs.Client.Order
import AccessDecision.Proofs.Client.Request
import AccessDecision.Proofs.Decision.Verdict
import AccessDecision.Proofs.Http.Exchange
import AccessDecision.Proofs.Text.Utf8

set_option autoImplicit false

/-! # What a call makes of its exchange

A call succeeds only on the word of the service: its input is valid, there is a credential, the
exchange is completed with a status of success, and the body says what the call is after. Any other
status is the service's error, and an error is worth another try exactly if the exchange broke off
(`Client.perform_fail_closed`). -/

namespace AccessDecision

open AccessDecision.Outcome

/-! ## What an error is about -/

namespace EvaluationError

variable {error : EvaluationError}

/-- Whether an error tells of an exchange that could not begin or was not completed. -/
def isOfExchange : EvaluationError → Bool
  | .configuration _ | .transport _ => true
  | _ => false

/-- Where the exchange is not to blame, another one is of no use. -/
theorem isRetryable_of_not_isOfExchange (h : error.isOfExchange = false) :
    error.isRetryable = false := by
  cases error with
  | transport error => exact absurd h (by simp [isOfExchange])
  | _ => rfl

end EvaluationError

namespace Client

variable {c : Client} {call : Call} {s : Situation} {state : Cache.State} {order : Order}
  {credential : Credential} {status : Nat} {body : Bytes} {answer : Answer}
  {error : EvaluationError}

/-! ## Reading the body of a success -/

/-- What the body of a successful answer of a service says. -/
inductive Reads : Service → Bytes → Answer → Prop
  | decided {body : Bytes} {d : Decision} (h : Decision.read body = .ok d) :
    Reads .checkAccess body (.decision d)
  | simulated {body : Bytes} {d : Decision} (h : Decision.read body = .ok d) :
    Reads .simulate body (.decision d)
  | compiled (policy : String) : Reads .compile (Text.Utf8.encode policy) (.policy policy)
  | validated (body : Bytes) : Reads .validatePolicy body .valid

/-- How the body of a successful answer of a service is read. -/
def readAnswer : Service → Bytes → Except EvaluationError Answer
  | .checkAccess, body | .simulate, body => (Decision.read body).map .decision
  | .compile, body =>
    ((Text.Utf8.decode body).mapError fun fault => .deserialization fault.message).map .policy
  | .validatePolicy, _ => .ok .valid

/-- What an order does with a body is up to the service that it is for. -/
theorem interpret_of_order (h : c.order call = .ok order) (body : Bytes) :
    (order.interpret body).1 = readAnswer call.service body := by
  have haccess (request : Request .access) :
      ((c.accessOrder request).interpret body).1 = (Decision.read body).map .decision := by
    simp only [accessOrder]
    cases Decision.read body with
    | error e => rfl
    | ok d => rfl
  cases call with
  | evaluate subject resource action details =>
    obtain ⟨request, -, rfl⟩ := map_eq_ok_iff.1 h
    exact haccess request
  | evaluateRequest request =>
    obtain rfl := Except.ok.inj h
    exact haccess request
  | evaluateCancellable request =>
    obtain rfl := Except.ok.inj h
    exact haccess request
  | simulate subject resource action details =>
    obtain ⟨request, -, rfl⟩ := map_eq_ok_iff.1 h
    rfl
  | compile rule =>
    rw [Client.order] at h
    split at h
    · exact absurd h (by simp)
    · obtain rfl := Except.ok.inj h
      rfl
  | validatePolicy policy =>
    rw [Client.order] at h
    split at h
    · exact absurd h (by simp)
    · obtain rfl := Except.ok.inj h
      rfl

theorem readAnswer_eq_ok_iff {service : Service} :
    readAnswer service body = .ok answer ↔ Reads service body answer := by
  constructor
  · intro h
    cases service with
    | checkAccess =>
      obtain ⟨d, hd, rfl⟩ := map_eq_ok_iff.1 h
      exact .decided hd
    | simulate =>
      obtain ⟨d, hd, rfl⟩ := map_eq_ok_iff.1 h
      exact .simulated hd
    | compile =>
      obtain ⟨policy, hpolicy, rfl⟩ := map_eq_ok_iff.1 h
      obtain rfl := Text.Utf8.decode_eq_ok_iff.1 (mapError_eq_ok_iff.1 hpolicy)
      exact .compiled policy
    | validatePolicy =>
      obtain rfl := Except.ok.inj h
      exact .validated body
  · rintro (hd | hd | policy | body)
    · exact map_eq_ok_iff.2 ⟨_, hd, rfl⟩
    · exact map_eq_ok_iff.2 ⟨_, hd, rfl⟩
    · rw [readAnswer, Text.Utf8.decode_encode]
      rfl
    · rfl

/-- The least that a service can say to grant access. -/
theorem reads_granted : Reads .checkAccess (Text.Utf8.encode "\x7b\"allowed\":true\x7d")
    (.decision ⟨true, none, none, .object [("allowed", .bool true)]⟩) := by
  have hjson : Json.read (Text.Utf8.encode "\x7b\"allowed\":true\x7d") =
      .ok (.object [("allowed", .bool true)]) := by
    decide +kernel
  refine .decided ?_
  rw [Decision.read, hjson]
  rfl

/-- The exchange is not to blame for a body that is not read. -/
theorem isOfExchange_of_readAnswer {service : Service}
    (h : readAnswer service body = .error error) : error.isOfExchange = false := by
  cases service with
  | checkAccess =>
    obtain ⟨reason, rfl⟩ := Decision.exists_reason_of_read_eq_error (map_eq_error_iff.1 h)
    rfl
  | simulate =>
    obtain ⟨reason, rfl⟩ := Decision.exists_reason_of_read_eq_error (map_eq_error_iff.1 h)
    rfl
  | compile =>
    have hfault := map_eq_error_iff.1 h
    cases hdecode : Text.Utf8.decode body with
    | ok policy => exact absurd (hdecode ▸ hfault) (by simp)
    | error fault =>
      rw [hdecode, mapError_error] at hfault
      obtain rfl := Except.error.inj hfault
      rfl
  | validatePolicy => exact absurd h (by simp [readAnswer])

/-! ## Input and credential -/

/-- The input of a call is valid and there is a credential for it. -/
structure Cleared (c : Client) (call : Call) (s : Situation) (state : Cache.State) (order : Order)
    (credential : Credential) : Prop where
  valid : call.Valid
  order_eq : c.order call = .ok order
  issued : (c.source.issue s.now state).1 = .ok credential

theorem isOfExchange_of_required {name value : String}
    (h : Request.required name value = .error error) : error.isOfExchange = false := by
  unfold Request.required at h
  split at h
  · exact absurd h (by simp)
  · obtain rfl := Except.error.inj h
    rfl

theorem isOfExchange_of_structured {purpose : Purpose} {details : Attachment}
    (h : Request.structured purpose details = .error error) : error.isOfExchange = false := by
  unfold Request.structured at h
  split at h
  all_goals simp only [Except.error.injEq, reduceCtorEq] at h
  all_goals exact h ▸ rfl

theorem isOfExchange_of_make_withDetails {purpose : Purpose} {subject resource action : String}
    {details : Attachment}
    (h : (Request.make purpose subject resource action).bind (·.withDetails details) =
      .error error) : error.isOfExchange = false := by
  rcases bind_eq_error_iff.1 h with hmake | ⟨request, -, hdetails⟩
  · simp only [Request.make, bind_eq_error_iff, reduceCtorEq, and_false, exists_false,
      or_false] at hmake
    rcases hmake with hsubject | ⟨_, -, hresource | ⟨_, -, haction⟩⟩
    · exact isOfExchange_of_required hsubject
    · exact isOfExchange_of_required hresource
    · exact isOfExchange_of_required haction
  · simp only [Request.withDetails, bind_eq_error_iff, reduceCtorEq, and_false, exists_false,
      or_false] at hdetails
    exact isOfExchange_of_structured hdetails

/-- Input is refused for what it is. -/
theorem isOfExchange_of_order (h : c.order call = .error error) : error.isOfExchange = false := by
  cases call with
  | evaluate subject resource action details =>
    exact isOfExchange_of_make_withDetails (map_eq_error_iff.1 h)
  | evaluateRequest request => exact absurd h (by simp [Client.order])
  | evaluateCancellable request => exact absurd h (by simp [Client.order])
  | simulate subject resource action details =>
    exact isOfExchange_of_make_withDetails (map_eq_error_iff.1 h)
  | compile rule =>
    rw [Client.order] at h
    split at h
    · obtain rfl := Except.error.inj h
      rfl
    · exact absurd h (by simp)
  | validatePolicy policy =>
    rw [Client.order] at h
    split at h
    · obtain rfl := Except.error.inj h
      rfl
    · exact absurd h (by simp)

/-- Without clearance a call fails before there is an exchange. -/
theorem fails_of_not_cleared (h : ∀ order credential, ¬ c.Cleared call s state order credential) :
    ∃ error, (c.perform call s state).result = .error error ∧ error.isOfExchange = false := by
  cases horder : c.order call with
  | error error =>
    refine ⟨error, ?_, isOfExchange_of_order horder⟩
    rw [perform_of_refused horder]
    rfl
  | ok order =>
    rcases hissue : c.source.issue s.now state with ⟨error | credential, log, after⟩
    · refine ⟨.credential error, ?_, rfl⟩
      rw [perform_of_no_credential horder hissue]
    · have hvalid : call.Valid := exists_order_iff.1 ⟨order, horder⟩
      exact absurd ⟨hvalid, horder, by rw [hissue]⟩ (h order credential)

/-- With clearance the exchange decides. -/
theorem Cleared.result_perform (h : c.Cleared call s state order credential) :
    (c.perform call s state).result = (do
      let (status, body) ← (c.send call order credential s).1.mapError Http.Failure.toError
      order.answer status body) := by
  have hissued := h.issued
  rcases hissue : c.source.issue s.now state with ⟨result, log, after⟩
  rw [hissue] at hissued
  obtain rfl : result = .ok credential := hissued
  exact (perform_of_issue h.order_eq hissue).1

theorem Cleared.unique {other : Order} {another : Credential}
    (h : c.Cleared call s state order credential) (h' : c.Cleared call s state other another) :
    order = other ∧ credential = another := by
  have horder := h.order_eq.symm.trans h'.order_eq
  have hcredential := h.issued.symm.trans h'.issued
  exact ⟨Except.ok.inj horder, Except.ok.inj hcredential⟩

/-! ## The exchange of a call -/

/-- A cleared call is exchanged with the service before it is given up, and the exchange delivers a
    status and a body. -/
def Completes (c : Client) (call : Call) (s : Situation) (state : Cache.State) (status : Nat)
    (body : Bytes) : Prop :=
  ∃ order credential request, c.Cleared call s state order credential ∧
    (call.cancellable && s.cancelled) = false ∧
    c.authenticated (c.urlFor call.service) order.body credential.token s.correlation =
      .ok request ∧
    Http.Delivers s.network call.cancellable request status body

/-- A cleared call is given up before its exchange, or its exchange breaks off. -/
def BreaksOff (c : Client) (call : Call) (s : Situation) (state : Cache.State) : Prop :=
  ∃ order credential, c.Cleared call s state order credential ∧
    ((call.cancellable && s.cancelled) = true ∨ ∃ request,
      c.authenticated (c.urlFor call.service) order.body credential.token s.correlation =
        .ok request ∧
      Http.BreaksOff s.network call.cancellable request)

theorem send_eq_ok_iff :
    (c.send call order credential s).1 = .ok (status, body) ↔
      (call.cancellable && s.cancelled) = false ∧ ∃ request,
        c.authenticated (c.urlFor call.service) order.body credential.token s.correlation =
          .ok request ∧
        Http.Delivers s.network call.cancellable request status body := by
  unfold send
  cases call.cancellable && s.cancelled with
  | true => simp
  | false =>
    cases c.authenticated (c.urlFor call.service) order.body credential.token s.correlation with
    | error failure => simp
    | ok request => simp [Http.exchange_eq_ok_iff]

theorem retryable_send_iff :
    (∃ failure, (c.send call order credential s).1 = .error failure ∧
        failure.toError.isRetryable = true) ↔
      (call.cancellable && s.cancelled) = true ∨ ∃ request,
        c.authenticated (c.urlFor call.service) order.body credential.token s.correlation =
          .ok request ∧
        Http.BreaksOff s.network call.cancellable request := by
  unfold send
  cases call.cancellable && s.cancelled with
  | true => simp [Http.Failure.toError, EvaluationError.isRetryable]
  | false =>
    cases hrequest : c.authenticated (c.urlFor call.service) order.body credential.token
        s.correlation with
    | error failure =>
      obtain rfl := failure_of_authenticated hrequest
      simp [Http.Failure.toError, EvaluationError.isRetryable]
    | ok request => simp [Http.retryable_exchange_iff]

/-! ## What is returned -/

theorem Cleared.completes_iff (h : c.Cleared call s state order credential) :
    c.Completes call s state status body ↔
      (c.send call order credential s).1 = .ok (status, body) := by
  rw [send_eq_ok_iff]
  constructor
  · rintro ⟨other, another, request, h', hrunning, hrequest, hdelivers⟩
    obtain ⟨rfl, rfl⟩ := h.unique h'
    exact ⟨hrunning, request, hrequest, hdelivers⟩
  · rintro ⟨hrunning, request, hrequest, hdelivers⟩
    exact ⟨order, credential, request, h, hrunning, hrequest, hdelivers⟩

theorem Cleared.breaksOff_iff (h : c.Cleared call s state order credential) :
    c.BreaksOff call s state ↔ ∃ failure, (c.send call order credential s).1 = .error failure ∧
      failure.toError.isRetryable = true := by
  rw [retryable_send_iff]
  constructor
  · rintro ⟨other, another, h', hbreaks⟩
    obtain ⟨rfl, rfl⟩ := h.unique h'
    exact hbreaks
  · intro hbreaks
    exact ⟨order, credential, h, hbreaks⟩

theorem isSuccess_iff : Http.isSuccess status = true ↔ 200 ≤ status ∧ status < 300 := by
  simp [Http.isSuccess]

/-- The answer to an order is its reading if the status is one of success. -/
theorem answer_eq_ok_iff (h : c.order call = .ok order) :
    order.answer status body = .ok answer ↔
      200 ≤ status ∧ status < 300 ∧ Reads call.service body answer := by
  rw [← and_assoc, ← isSuccess_iff, Order.answer, interpret_of_order h, ← readAnswer_eq_ok_iff]
  cases Http.isSuccess status with
  | true => simp
  | false => simp

theorem isOfExchange_of_answer (h : c.order call = .ok order)
    (hanswer : order.answer status body = .error error) : error.isOfExchange = false := by
  rw [Order.answer, interpret_of_order h] at hanswer
  split at hanswer
  · exact isOfExchange_of_readAnswer hanswer
  · obtain rfl := Except.error.inj hanswer
    rfl

/-- What is delivered is answered, and has not broken off. -/
theorem Completes.result_perform (h : c.Completes call s state status body) :
    ¬ c.BreaksOff call s state ∧ ∃ order, c.order call = .ok order ∧
      (c.perform call s state).result = order.answer status body := by
  obtain ⟨order, credential, request, hcleared, -⟩ := id h
  have hsend : (c.send call order credential s).1 = .ok (status, body) :=
    hcleared.completes_iff.1 h
  constructor
  · rw [hcleared.breaksOff_iff, hsend]
    simp
  · refine ⟨order, hcleared.order_eq, ?_⟩
    rw [hcleared.result_perform, hsend]
    rfl

/-- Where nothing is delivered a call fails, and is worth another try if it broke off. With
    clearance it did, or there is no request for a URL. -/
theorem fails_of_not_completes (h : ¬ ∃ status body, c.Completes call s state status body) :
    ∃ error, (c.perform call s state).result = .error error ∧
      (error.isRetryable = true ↔ c.BreaksOff call s state) ∧
      ∀ order credential, c.Cleared call s state order credential →
        error.isRetryable = true ∨ ∃ reason, error = .configuration reason := by
  by_cases hcleared : ∃ order credential, c.Cleared call s state order credential
  · obtain ⟨order, credential, hcleared⟩ := hcleared
    rcases hsend : (c.send call order credential s).1 with failure | ⟨status, body⟩
    · refine ⟨failure.toError, ?_, ?_, fun _ _ _ => failure.toError_cases⟩
      · rw [hcleared.result_perform, hsend]
        rfl
      · rw [hcleared.breaksOff_iff, hsend]
        simp
    · exact absurd ⟨status, body, hcleared.completes_iff.2 hsend⟩ h
  · have hnone : ∀ order credential, ¬ c.Cleared call s state order credential := by
      intro order credential hcleared'
      exact hcleared ⟨order, credential, hcleared'⟩
    obtain ⟨error, herror, hearly⟩ := fails_of_not_cleared hnone
    have hlasting := EvaluationError.isRetryable_of_not_isOfExchange hearly
    refine ⟨error, herror, ?_, fun order credential h => absurd h (hnone order credential)⟩
    have hbreaks : ¬ c.BreaksOff call s state := by
      rintro ⟨order, credential, h, -⟩
      exact hnone order credential h
    simp [hlasting, hbreaks]

theorem result_eq_ok_iff :
    (c.perform call s state).result = .ok answer ↔
      ∃ status body, c.Completes call s state status body ∧ 200 ≤ status ∧ status < 300 ∧
        Reads call.service body answer := by
  constructor
  · intro hok
    by_cases h : ∃ status body, c.Completes call s state status body
    · obtain ⟨status, body, hcompletes⟩ := h
      obtain ⟨-, order, horder, hresult⟩ := hcompletes.result_perform
      exact ⟨status, body, hcompletes, (answer_eq_ok_iff horder).1 (hresult.symm.trans hok)⟩
    · obtain ⟨error, herror, -⟩ := fails_of_not_completes h
      exact absurd (herror.symm.trans hok) (by simp)
  · rintro ⟨status, body, hcompletes, hreads⟩
    obtain ⟨-, order, horder, hresult⟩ := hcompletes.result_perform
    exact hresult.trans ((answer_eq_ok_iff horder).2 hreads)

theorem Completes.result_of_failure (h : c.Completes call s state status body)
    (hstatus : ¬ (200 ≤ status ∧ status < 300)) :
    (c.perform call s state).result = .error (.service status (Text.Utf8.decodeLossy body)) := by
  obtain ⟨-, order, -, hresult⟩ := h.result_perform
  rw [hresult, Order.answer, if_neg (by rwa [isSuccess_iff])]

theorem isRetryable_result_iff (h : (c.perform call s state).result = .error error) :
    error.isRetryable = true ↔ c.BreaksOff call s state := by
  by_cases hsome : ∃ status body, c.Completes call s state status body
  · obtain ⟨status, body, hcompletes⟩ := hsome
    obtain ⟨hbreaks, order, horder, hresult⟩ := hcompletes.result_perform
    have hlasting : error.isRetryable = false := EvaluationError.isRetryable_of_not_isOfExchange
      (isOfExchange_of_answer horder (hresult.symm.trans h))
    simp [hlasting, hbreaks]
  · obtain ⟨other, hother, hretryable, -⟩ := fails_of_not_completes hsome
    obtain rfl := Except.error.inj (h.symm.trans hother)
    exact hretryable

/-- What there is besides an exchange that is completed or broken off. -/
theorem Cleared.completes_or_breaksOff (h : c.Cleared call s state order credential) :
    (∃ status body, c.Completes call s state status body) ∨ c.BreaksOff call s state ∨
      ∃ reason, (c.perform call s state).result = .error (.configuration reason) := by
  by_cases hsome : ∃ status body, c.Completes call s state status body
  · exact Or.inl hsome
  · obtain ⟨error, herror, hretryable, hcases⟩ := fails_of_not_completes hsome
    rcases hcases order credential h with hbroken | ⟨reason, rfl⟩
    · exact Or.inr (Or.inl (hretryable.1 hbroken))
    · exact Or.inr (Or.inr ⟨reason, herror⟩)

/-- **Fail closed.** Whatever the network does, a call succeeds exactly if its input is valid, a
    credential is issued, the exchange is completed in time with a status of success, and the body
    says what is returned. A completed exchange with another status is the service's error, with the
    status and the text of the body. An error is worth another try exactly if input and credential
    were in order and the exchange broke off. No exchange is completed and broken off at once. With
    input and credential in order it is one of them, or there is no request for a URL. -/
theorem perform_fail_closed (c : Client) (call : Call) (s : Situation) (state : Cache.State) :
    (∀ answer, (c.perform call s state).result = .ok answer ↔
      ∃ status body, c.Completes call s state status body ∧ 200 ≤ status ∧ status < 300 ∧
        Reads call.service body answer) ∧
    (∀ status body, c.Completes call s state status body → ¬ (200 ≤ status ∧ status < 300) →
      (c.perform call s state).result =
        .error (.service status (Text.Utf8.decodeLossy body))) ∧
    (∀ error, (c.perform call s state).result = .error error →
      (error.isRetryable = true ↔ c.BreaksOff call s state)) ∧
    (∀ status body, c.Completes call s state status body → ¬ c.BreaksOff call s state) ∧
    ∀ order credential, c.Cleared call s state order credential →
      (∃ status body, c.Completes call s state status body) ∨ c.BreaksOff call s state ∨
        ∃ reason, (c.perform call s state).result = .error (.configuration reason) := by
  refine ⟨?_, ?_, ?_, ?_, ?_⟩
  · intro answer
    exact result_eq_ok_iff
  · intro status body hcompletes hstatus
    exact hcompletes.result_of_failure hstatus
  · intro error herror
    exact isRetryable_result_iff herror
  · intro status body hcompletes
    exact hcompletes.result_perform.1
  · intro order credential hcleared
    exact hcleared.completes_or_breaksOff

end Client

end AccessDecision
