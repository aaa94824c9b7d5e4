import AccessDecision.Proofs.Client.Transparency
import AccessDecision.Proofs.Http.Token

set_option autoImplicit false

/-! # What a secret has a say in

Two setups that differ in the client's secret only are run side by side: the same operations of the
issuer, of a cache in front of it and of clients that use either, at the same instants, with the same
nonces, over networks that do not look at signatures. An `Observation` is all that an operation lets
anybody see. Step by step what is held are twins, and what is seen is the same but for the signatures
of tokens (`Cache.operate_alike`); so it is for runs of any length (`Cache.observe_alike`). -/

namespace AccessDecision

open Outcome

/-! ## Calls under two secrets -/

namespace Client

variable {c : Client} {cache : Cache} {secret secret' : String} {call : Call} {s : Situation}
  {state state' : Cache.State} {order : Order} {credential credential' : Credential}

/-- Outcomes that are the same but for signatures, and leave twins behind. -/
structure Outcome.Twins (i i' : Issuer) (o o' : Outcome Answer) : Prop where
  result_eq : o.result = o'.result
  log_eq : o.log = o'.log
  requests : List.Forall₂ Http.Request.Alike o.requests o'.requests
  state : Cache.State.Twins i i' o.state o'.state

theorem requestTo_alike {token token' : String} (htokens : Credential.TokensAlike token token')
    (url : Url) (basic : Http.Headers) (body : Bytes) (h : Http.isValue token = true)
    (h' : Http.isValue token' = true) (correlation : CorrelationId) :
    (c.requestTo url basic body h correlation).Alike
      (c.requestTo url basic body h' correlation) := by
  refine ⟨rfl, rfl, Http.Headers.complete_alike _ ?_, rfl⟩
  refine List.rel_append (Http.Headers.alike_refl basic) ?_
  exact .cons (.same _) (.cons (.token rfl rfl rfl rfl htokens) (.cons (.same _) .nil))

/-- Over a network that does not look at signatures, the same comes back for alike credentials. -/
theorem send_alike (hblind : Http.AgreeOn Http.Request.Alike s.network s.network)
    (halike : credential.Alike credential') (h : Http.isValue credential.token = true)
    (h' : Http.isValue credential'.token = true) :
    (c.send call order credential s).1 = (c.send call order credential' s).1 ∧
      List.Forall₂ Http.Request.Alike (c.send call order credential s).2
        (c.send call order credential' s).2 := by
  rw [send_eq h, send_eq h']
  rcases c.destination call s.cancelled with failure | ⟨url, basic⟩
  · exact ⟨rfl, .nil⟩
  · exact Http.exchange_alike Http.Request.likeness_alike hblind call.cancellable
      (requestTo_alike halike.tokens url basic order.body h h' s.correlation)

/-- What a call makes of its exchange is up to what came back. -/
theorem conclude_congr (url : String) (correlation : CorrelationId) (log : List Event)
    (after after' : Cache.State)
    {exchanged exchanged' : Except Http.Failure (Nat × Bytes) × List Http.Request}
    (h : exchanged.1 = exchanged'.1) (order : Order) :
    ((conclude url correlation log after exchanged).andThen order.interpret).result =
        ((conclude url correlation log after' exchanged').andThen order.interpret).result ∧
      ((conclude url correlation log after exchanged).andThen order.interpret).log =
        ((conclude url correlation log after' exchanged').andThen order.interpret).log := by
  obtain ⟨result, requests⟩ := exchanged
  obtain ⟨result', requests'⟩ := exchanged'
  obtain rfl : result = result' := h
  rcases result with failure | ⟨status, body⟩
  · exact ⟨rfl, rfl⟩
  · simp only [conclude]
    cases Http.isSuccess status with
    | true => exact ⟨rfl, rfl⟩
    | false => exact ⟨rfl, rfl⟩

/-- A call is the same under two secrets but for signatures. -/
theorem perform_twins (hsecret : secret ≠ "") (hsecret' : secret' ≠ "")
    (hblind : Http.AgreeOn Http.Request.Alike s.network s.network)
    (h : Cache.State.Twins (cache.withSecret secret).issuer (cache.withSecret secret').issuer state
      state') (c : Client) (cached : Bool) (call : Call) :
    Outcome.Twins (cache.withSecret secret).issuer (cache.withSecret secret').issuer
      ((c.withSource ((cache.withSecret secret).source cached)).perform call s state)
      ((c.withSource ((cache.withSecret secret').source cached)).perform call s state') := by
  cases horder : c.order call with
  | error error =>
    rw [perform_of_refused (order_withSource.trans horder),
      perform_of_refused (order_withSource.trans horder)]
    exact ⟨rfl, rfl, .nil, h⟩
  | ok order =>
    have horder₁ : (c.withSource ((cache.withSecret secret).source cached)).order call =
      .ok order := order_withSource.trans horder
    have horder₂ : (c.withSource ((cache.withSecret secret').source cached)).order call =
      .ok order := order_withSource.trans horder
    rcases Source.issue_twins hsecret hsecret' h cached s.now with
      ⟨error, hissue, hissue'⟩ | ⟨minted, nonce, log, after, after', hissue, hissue', hafter⟩
    · rw [perform_of_no_credential horder₁ hissue, perform_of_no_credential horder₂ hissue']
      exact ⟨rfl, rfl, .nil, h⟩
    · have halike : ((cache.withSecret secret).issuer.sign minted nonce).Alike
          ((cache.withSecret secret').issuer.sign minted nonce) := Issuer.sign_alike minted nonce
      obtain ⟨hanswer, hrequests⟩ : (c.send call order _ s).1 = (c.send call order _ s).1 ∧ _ :=
        send_alike hblind halike (Credential.isValue_token ..) (Credential.isValue_token ..)
      obtain ⟨hresult, hlog⟩ := conclude_congr (c.urlFor call.service) s.correlation
        (log ++ [.requestSent (c.urlFor call.service)
          ((cache.withSecret secret).issuer.sign minted nonce).claims.clientId
          s.correlation.text]) after after' hanswer order
      have hperform := perform_eq_conclude horder₁ hissue
      have hperform' := perform_eq_conclude horder₂ hissue'
      rw [send_withSource] at hperform hperform'
      rw [← halike.claims_eq] at hperform'
      obtain ⟨-, hsent, hstate⟩ := perform_of_issue horder₁ hissue
      obtain ⟨-, hsent', hstate'⟩ := perform_of_issue horder₂ hissue'
      rw [send_withSource] at hsent hsent'
      refine ⟨?_, ?_, ?_, ?_⟩
      · rw [hperform, hperform']
        exact hresult
      · rw [hperform, hperform']
        exact hlog
      · rw [hsent, hsent']
        exact hrequests
      · rw [hstate, hstate']
        exact hafter

end Client

/-! ## Operations -/

/-- What an issuer, a cache in front of it and the clients that use either can be asked to do. -/
inductive Operation where
  | issue (now : Instant)
  | issueCached (now : Instant)
  | invalidate
  /-- A call of the client of a configuration, which gets its credentials through the cache or
  straight from the issuer. -/
  | call (config : Config) (cached : Bool) (call : Call) (s : Client.Situation)

/-- The network of a call answers alike whatever the signatures of the tokens are. -/
def Operation.Blind : Operation → Prop
  | .call _ _ _ s => Http.AgreeOn Http.Request.Alike s.network s.network
  | _ => True

/-- What comes out of an operation. -/
inductive Effect where
  | issued (result : Except CredentialError Credential)
  | invalidated
  /-- The client cannot be built. -/
  | refused (error : EvaluationError)
  | answered (result : Except EvaluationError Answer) (requests : List Http.Request)

/-- What an operation lets anybody see: what comes out, the log, and what diagnostics show. -/
structure Observation where
  effect : Effect
  log : List Event
  shown : List String

namespace Cache

/-- What diagnostics show of a setup, whatever is done with it. -/
def shown (c : Cache) (lock : String → String) (state : State) : List String :=
  [c.issuer.identity.diagnostic, c.issuer.diagnostic, c.diagnostic lock state]

/-- The observation of an operation that asks for a credential, and the state after it. -/
def hand (c : Cache) (lock : String → String) (cached : Bool) (now : Instant) (state : State) :
    Observation × State :=
  match (c.source cached).issue now state with
  | (.error error, log, after) => (⟨.issued (.error error), log, c.shown lock after⟩, after)
  | (.ok credential, log, after) =>
    (⟨.issued (.ok credential), log, credential.diagnostic :: c.shown lock after⟩, after)

/-- The observation of an operation, and the state after it. -/
def operate (c : Cache) (lock : String → String) (operation : Operation) (state : State) :
    Observation × State :=
  match operation with
  | .issue now => c.hand lock false now state
  | .issueCached now => c.hand lock true now state
  | .invalidate => (⟨.invalidated, [], c.shown lock (invalidate state)⟩, invalidate state)
  | .call config cached call s =>
    match Client.make config (c.source cached) with
    | .error error => (⟨.refused error, [], c.shown lock state⟩, state)
    | .ok client =>
      let outcome := client.perform call s state
      (⟨.answered outcome.result outcome.requests, outcome.log,
        client.diagnostic :: c.shown lock outcome.state⟩, outcome.state)

/-- The observations of operations that follow one another. -/
def observe (c : Cache) (lock : String → String) : List Operation → State → List Observation
  | [], _ => []
  | operation :: rest, state =>
    let (observation, after) := c.operate lock operation state
    observation :: c.observe lock rest after

end Cache

/-! ## What is observed -/

/-- Effects that are the same but for the signatures of tokens. -/
inductive Effect.Alike : Effect → Effect → Prop
  | failed (error : CredentialError) : Alike (.issued (.error error)) (.issued (.error error))
  | issued {credential credential' : Credential} (halike : credential.Alike credential') :
    Alike (.issued (.ok credential)) (.issued (.ok credential'))
  | invalidated : Alike .invalidated .invalidated
  | refused (error : EvaluationError) : Alike (.refused error) (.refused error)
  | answered (result : Except EvaluationError Answer) {requests requests' : List Http.Request}
    (halike : List.Forall₂ Http.Request.Alike requests requests') :
    Alike (.answered result requests) (.answered result requests')

/-- Observations that are the same but for the signatures of tokens. -/
structure Observation.Alike (o o' : Observation) : Prop where
  effect : o.effect.Alike o'.effect
  log_eq : o.log = o'.log
  shown_eq : o.shown = o'.shown

namespace Cache

variable {c : Cache} {secret secret' : String} {state state' : State} {lock : String → String}

theorem shown_twins
    (h : State.Twins (c.withSecret secret).issuer (c.withSecret secret').issuer state state') :
    (c.withSecret secret).shown lock state = (c.withSecret secret').shown lock state' := by
  have hidentity : (c.withSecret secret).issuer.identity.diagnostic =
    (c.withSecret secret').issuer.identity.diagnostic := rfl
  have hissuer : (c.withSecret secret).issuer.diagnostic =
    (c.withSecret secret').issuer.diagnostic := rfl
  unfold shown
  rw [hidentity, hissuer, diagnostic_twins h]

theorem hand_alike (hsecret : secret ≠ "") (hsecret' : secret' ≠ "")
    (h : State.Twins (c.withSecret secret).issuer (c.withSecret secret').issuer state state')
    (cached : Bool) (now : Instant) :
    ((c.withSecret secret).hand lock cached now state).1.Alike
        ((c.withSecret secret').hand lock cached now state').1 ∧
      State.Twins (c.withSecret secret).issuer (c.withSecret secret').issuer
        ((c.withSecret secret).hand lock cached now state).2
        ((c.withSecret secret').hand lock cached now state').2 := by
  unfold hand
  rcases Source.issue_twins hsecret hsecret' h cached now with
    ⟨error, hissue, hissue'⟩ | ⟨minted, nonce, log, after, after', hissue, hissue', hafter⟩
  · rw [hissue, hissue']
    exact ⟨⟨.failed error, rfl, shown_twins h⟩, h⟩
  · rw [hissue, hissue']
    have halike : ((c.withSecret secret).issuer.sign minted nonce).Alike
      ((c.withSecret secret').issuer.sign minted nonce) := Issuer.sign_alike minted nonce
    refine ⟨⟨.issued halike, rfl, ?_⟩, hafter⟩
    dsimp only
    rw [halike.diagnostic_eq, shown_twins hafter]

/-- An operation is the same under two secrets but for signatures. -/
theorem operate_alike (hsecret : secret ≠ "") (hsecret' : secret' ≠ "")
    (h : State.Twins (c.withSecret secret).issuer (c.withSecret secret').issuer state state')
    {operation : Operation} (hblind : operation.Blind) :
    ((c.withSecret secret).operate lock operation state).1.Alike
        ((c.withSecret secret').operate lock operation state').1 ∧
      State.Twins (c.withSecret secret).issuer (c.withSecret secret').issuer
        ((c.withSecret secret).operate lock operation state).2
        ((c.withSecret secret').operate lock operation state').2 := by
  cases operation with
  | issue now => exact hand_alike hsecret hsecret' h false now
  | issueCached now => exact hand_alike hsecret hsecret' h true now
  | invalidate =>
    exact ⟨⟨.invalidated, rfl, shown_twins h.invalidate⟩, h.invalidate⟩
  | call config cached call s =>
    unfold operate
    dsimp only
    rw [Client.make_withSource config (c.source cached) ((c.withSecret secret).source cached),
      Client.make_withSource config (c.source cached) ((c.withSecret secret').source cached)]
    cases Client.make config (c.source cached) with
    | error error => exact ⟨⟨.refused error, rfl, shown_twins h⟩, h⟩
    | ok client =>
      obtain ⟨hresult, hlog, hrequests, hstate⟩ :=
        Client.perform_twins hsecret hsecret' hblind h client cached call
      dsimp only [Except.map]
      refine ⟨⟨?_, hlog, ?_⟩, hstate⟩
      · dsimp only
        rw [hresult]
        exact .answered _ hrequests
      · dsimp only
        rw [shown_twins hstate]
        rfl

/-- **The secret has a say in signatures only.** Two setups that differ in the client's secret, and
    have one, are observed alike through any operations, over networks that do not look at
    signatures: the same claims, results and errors, the same log, the same diagnostics, and requests
    and tokens that are the same up to the signature, which has the same length. -/
theorem observe_alike (c : Cache) (lock : String → String) (entropy : Entropy)
    (operations : List Operation) {secret secret' : String} (hsecret : secret ≠ "")
    (hsecret' : secret' ≠ "") (hblind : ∀ operation ∈ operations, operation.Blind) :
    List.Forall₂ Observation.Alike
      ((c.withSecret secret).observe lock operations ⟨none, entropy⟩)
      ((c.withSecret secret').observe lock operations ⟨none, entropy⟩) := by
  suffices hrun : ∀ state state' : State,
      State.Twins (c.withSecret secret).issuer (c.withSecret secret').issuer state state' →
      List.Forall₂ Observation.Alike ((c.withSecret secret).observe lock operations state)
        ((c.withSecret secret').observe lock operations state') from
    hrun _ _ (.new _ _ entropy)
  induction operations with
  | nil => exact fun _ _ _ => .nil
  | cons operation rest ih =>
    intro state state' h
    obtain ⟨hnow, hrest⟩ := List.forall_mem_cons.1 hblind
    obtain ⟨halike, hafter⟩ := operate_alike hsecret hsecret' h hnow
    exact .cons halike (ih hrest _ _ hafter)

/-- A credential from the issuer and one for a call through the cache, which is then handed out again,
    forgotten and replaced, under a secret of one letter and a longer one. -/
theorem observe_alike_short_and_long :
    let c : Cache := ⟨⟨⟨"svc", ""⟩, .hs256, some "idp"⟩, Cache.defaultMargin⟩
    let lock (data : String) : String := "Mutex \x7b data: " ++ data ++ " \x7d"
    let network : Http.Network := fun _ =>
      ⟨.answered ⟨200, [], .whole (Text.Utf8.encode "\x7b\"allowed\":true\x7d")⟩, false⟩
    let operations : List Operation := [.issue .epoch,
      .call .default true (.evaluate "alice" "doc42" "read" .absent) ⟨.epoch, ⟨0⟩, network, false⟩,
      .issueCached .epoch, .invalidate, .issueCached .epoch]
    "k" ≠ "" ∧ "correct horse bat" ≠ "" ∧ (∀ operation ∈ operations, operation.Blind) ∧
      List.Forall₂ Observation.Alike
        ((c.withSecret "k").observe lock operations ⟨none, .countingFrom 0⟩)
        ((c.withSecret "correct horse bat").observe lock operations ⟨none, .countingFrom 0⟩) := by
  intro c lock network operations
  have hblind : ∀ operation ∈ operations, operation.Blind := by
    have hnetwork : Http.AgreeOn Http.Request.Alike network network := fun _ _ _ => rfl
    simp [operations, Operation.Blind, hnetwork]
  exact ⟨by decide, by decide, hblind,
    observe_alike c lock (.countingFrom 0) operations (by decide) (by decide) hblind⟩

end Cache

end AccessDecision
