import AccessDecision.Proofs.Client.Interpretation
import AccessDecision.Proofs.Credential.Issuance

set_option autoImplicit false

/-! # What a call sends

A call sends nothing or a POST to the URL of its service, and nothing more unless that is answered
with a redirect: redirects are followed, so a call may send up to ten requests more, to hosts that
the answers name (`Client.perform_requests`). A POST that is answered in any other way is the only
request. -/

namespace AccessDecision.Client

open AccessDecision.Outcome

variable {c : Client} {call : Call} {s : Situation} {state : Cache.State}

/-- Without an order or a credential nothing is sent, and with both what their exchange sends. -/
theorem perform_cases (c : Client) (call : Call) (s : Situation) (state : Cache.State) :
    (c.perform call s state).requests = [] ∨ ∃ order credential,
      c.order call = .ok order ∧ (c.source.issue s.now state).1 = .ok credential ∧
      (c.perform call s state).requests = (c.send call order credential s).2 ∧
      (c.perform call s state).result = (do
        let (status, body) ← (c.send call order credential s).1.mapError Http.Failure.toError
        order.answer status body) := by
  cases horder : c.order call with
  | error error =>
    refine Or.inl ?_
    rw [perform_of_refused horder]
    rfl
  | ok order =>
    rcases hissue : c.source.issue s.now state with ⟨error | credential, log, after⟩
    · refine Or.inl ?_
      rw [perform_of_no_credential horder hissue]
    · obtain ⟨hresult, hrequests, -⟩ := perform_of_issue horder hissue
      exact Or.inr ⟨order, credential, rfl, rfl, hrequests, hresult⟩

theorem requests_perform (c : Client) (call : Call) (s : Situation) (state : Cache.State) :
    (c.perform call s state).requests = [] ∨ ∃ order credential,
      (c.perform call s state).requests = (c.send call order credential s).2 ∧
      (c.perform call s state).result = (do
        let (status, body) ← (c.send call order credential s).1.mapError Http.Failure.toError
        order.answer status body) := by
  rcases c.perform_cases call s state with hnone | ⟨order, credential, -, -, hsend⟩
  · exact Or.inl hnone
  · exact Or.inr ⟨order, credential, hsend⟩

/-- What is sent for a credential is the requests of an exchange, if there is one. -/
theorem send_cases (c : Client) (call : Call) (order : Order) (credential : Credential)
    (s : Situation) :
    (c.send call order credential s).2 = [] ∨ ∃ request,
      c.authenticated (c.urlFor call.service) order.body credential.token s.correlation =
        .ok request ∧
      c.send call order credential s = Http.exchange s.network call.cancellable request := by
  unfold send
  cases call.cancellable && s.cancelled with
  | true => exact Or.inl rfl
  | false =>
    cases c.authenticated (c.urlFor call.service) order.body credential.token s.correlation with
    | error failure => exact Or.inl rfl
    | ok request => exact Or.inr ⟨request, rfl, rfl⟩

/-- What is sent starts with the request for the order and the credential of the call. -/
theorem requests_cases (c : Client) (call : Call) (s : Situation) (state : Cache.State) :
    (c.perform call s state).requests = [] ∨ ∃ order credential first rest,
      c.order call = .ok order ∧ (c.source.issue s.now state).1 = .ok credential ∧
      c.authenticated (c.urlFor call.service) order.body credential.token s.correlation =
        .ok first ∧
      (c.perform call s state).requests = first :: rest ∧
      first :: rest = (Http.exchange s.network call.cancellable first).2 := by
  rcases c.perform_cases call s state with hnone | ⟨order, credential, horder, hissue, hsend, -⟩
  · exact Or.inl hnone
  rcases c.send_cases call order credential s with hnone | ⟨request, hrequest, hexchange⟩
  · exact Or.inl (hsend.trans hnone)
  rw [hexchange] at hsend
  cases hall : (c.perform call s state).requests with
  | nil => exact Or.inl rfl
  | cons first rest =>
    rw [hall] at hsend
    have hchain := (Http.chain_exchange s.network call.cancellable request).1
    obtain rfl : first = request := hchain.head first (by rw [← hsend]; rfl)
    exact Or.inr ⟨order, credential, first, rest, horder, hissue, hrequest, rfl, hsend⟩

/-- **What is sent.** A call sends nothing, or first a POST to the URL of its service. More is sent
    only to follow redirects, ten at most: each further request is what the one before becomes
    because of a redirect that it is answered with. So a POST that is answered, but not redirected,
    is all that is sent, and if the status is no success the caller gets status and body of this
    very answer as the service's error. -/
theorem perform_requests (c : Client) (call : Call) (s : Situation) (state : Cache.State) :
    (c.perform call s state).requests = [] ∨ ∃ first rest,
      (c.perform call s state).requests = first :: rest ∧
      (first.method = .post ∧ ∃ url, Url.read (c.urlFor call.service) = .ok url ∧
        first.url.withoutUserInfo = url.withoutUserInfo) ∧
      rest.length ≤ 10 ∧ Http.Chain s.network call.cancellable first (first :: rest) ∧
      ∀ response, Http.Receives s.network call.cancellable [first] (.answered response) →
        response.target? first.url = none → rest = [] ∧
          ∀ body, response.content = some body → Http.isSuccess response.status = false →
            (c.perform call s state).result =
              .error (.service response.status (Text.Utf8.decodeLossy body)) := by
  rcases c.requests_perform call s state with hnone | ⟨order, credential, hrequests, hresult⟩
  · exact Or.inl hnone
  rcases c.send_cases call order credential s with hnone | ⟨request, hrequest, hsend⟩
  · exact Or.inl (hrequests.trans hnone)
  rw [hsend] at hrequests hresult
  obtain ⟨hchain, hlength⟩ := Http.chain_exchange s.network call.cancellable request
  rw [← hrequests] at hchain hlength
  cases hall : (c.perform call s state).requests with
  | nil => exact Or.inl rfl
  | cons first rest =>
    rw [hall] at hchain hlength
    obtain rfl : first = request := hchain.head first rfl
    refine Or.inr ⟨first, rest, rfl, request_of_authenticated hrequest, ?_, hchain, ?_⟩
    · exact Nat.le_of_succ_le_succ hlength
    · intro response hreceives htarget
      have hsendable : Http.isSendable first.url = true := by
        rw [← Bool.not_eq_false]
        intro hunsendable
        rw [Http.exchange_of_not_sendable hunsendable, hall] at hrequests
        exact absurd hrequests (by simp)
      have hexchange := Http.exchange_of_answered hsendable hreceives htarget
      rw [hexchange] at hrequests hresult
      constructor
      · rw [hall] at hrequests
        exact (List.cons.inj hrequests).2
      · intro body hcontent hstatus
        rw [hresult, Http.Response.whole, hcontent, mapError_ok, ok_bind]
        dsimp only
        rw [Order.answer, if_neg (by simp [hstatus])]

/-- The service answers with 307 and the place that it has moved to. That is followed, so the caller
    gets access and not the service's error. -/
theorem perform_follows_redirect :
    let config : Config := ⟨"http://authz.example.com", none, some 30, []⟩
    let issuer : Issuer := ⟨⟨"svc", "secret"⟩, .hs256, none⟩
    let network : Http.Network := fun sent =>
      match sent with
      | [_] => ⟨.answered ⟨307, [("Location", "/moved")], .whole []⟩, false⟩
      | _ => ⟨.answered ⟨200, [], .whole (Text.Utf8.encode "\x7b\"allowed\":true\x7d")⟩, false⟩
    ∃ c d, make config (.issuer issuer) = .ok c ∧
      let outcome := c.perform (.evaluate "alice" "doc42" "read" .absent)
        ⟨.epoch, ⟨0⟩, network, false⟩ ⟨none, .countingFrom 0⟩
      outcome.requests.length = 2 ∧ outcome.result = .ok (.decision d) ∧ d.allowed = true := by
  intro config issuer network
  let location (path : String) : Url := ⟨"http".toList, [], [],
    some (.domain "authz.example.com".toList), none, .segments [path.toList], none, none⟩
  let c : Client := ⟨config, location "", [], .issuer issuer⟩
  let call : Call := .evaluate "alice" "doc42" "read" .absent
  let s : Situation := ⟨.epoch, ⟨0⟩, network, false⟩
  let credential := issuer.sign .epoch (Entropy.countingFrom 0).current
  let moved : Http.Response := ⟨307, [("Location", "/moved")], .whole []⟩
  let granted : Http.Response := ⟨200, [], .whole (Text.Utf8.encode "\x7b\"allowed\":true\x7d")⟩
  have hmake : make config (.issuer issuer) = .ok c := by
    have hendpoint : config.endpointUrl = .ok (location "") := by decide +kernel
    rw [make, hendpoint]
    rfl
  obtain ⟨order, horder⟩ : ∃ order, c.order call = .ok order :=
    exists_order_iff.2 ⟨⟨by decide, by decide, by decide⟩, .null, rfl, Or.inl rfl⟩
  have hissue : c.source.issue s.now ⟨none, .countingFrom 0⟩ =
      (.ok credential, [credential.issuedEvent], ⟨none, (Entropy.countingFrom 0).advance⟩) := by
    have hvalid : issuer.identity.validate = .ok () := by decide +kernel
    simp only [c, Source.issue, Issuer.issue_of_validate_eq_ok hvalid]
    rfl
  obtain ⟨hresult, hrequests, -⟩ := perform_of_issue horder hissue
  -- the token is of no account, so its signature is never computed
  obtain ⟨request, hrequest, hurl⟩ : ∃ request,
      c.authenticated (c.urlFor call.service) order.body credential.token s.correlation =
        .ok request ∧ request.url = location "check-access" := by
    have hread : Url.read (c.urlFor call.service) = .ok (location "check-access") := by
      decide +kernel
    have htoken : Http.isValue credential.token = true := Credential.isValue_token ..
    rw [authenticated_eq htoken, hread]
    exact ⟨_, rfl, rfl⟩
  have hsend : c.send call order credential s = Http.exchange network false request := by
    unfold send
    rw [hrequest]
    rfl
  have hexchange : Http.exchange network false request =
      (granted.whole, [request, request.redirected 307 (location "moved")]) := by
    have htarget : moved.target? request.url = some (location "moved") := by
      rw [hurl]
      decide +kernel
    refine Http.exchange_of_redirected ?_ ⟨rfl, rfl⟩ htarget (by decide) ⟨rfl, rfl⟩ rfl
    rw [hurl]
    decide
  have hwhole : granted.whole = .ok (200, Text.Utf8.encode "\x7b\"allowed\":true\x7d") := rfl
  rw [hsend, hexchange] at hrequests hresult
  rw [hwhole, mapError_ok, ok_bind] at hresult
  let decision : Decision := ⟨true, none, none, .object [("allowed", .bool true)]⟩
  have hanswer : order.answer 200 (Text.Utf8.encode "\x7b\"allowed\":true\x7d") =
      .ok (.decision decision) :=
    (answer_eq_ok_iff horder).2 ⟨by decide, by decide, reads_granted⟩
  exact ⟨c, decision, hmake, congrArg List.length hrequests, hresult.trans hanswer, rfl⟩

end AccessDecision.Client
