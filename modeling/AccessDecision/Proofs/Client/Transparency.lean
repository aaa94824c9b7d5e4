import AccessDecision.Proofs.Client.Order
import AccessDecision.Proofs.Client.Request
import AccessDecision.Proofs.Credential.Source
import AccessDecision.Proofs.Http.Hiding
import Mathlib.Data.List.Forall2

set_option autoImplicit false

/-! # A cache behind a client does not show

Two clients of one configuration get their credentials from the same issuer, one of them through a
cache. If the network does not look at the token, nothing that a caller or the service sees tells
them apart: in a step both get a credential or the same error (`Source.Sound`), and then exchange
requests that are the same but for the token (`send_congr`). By induction on the calls this holds
for whole lives of the clients, `Client.serve_transparent`, and each token that either of them sends
is accepted at the instant of its call. -/

namespace AccessDecision.Client

open AccessDecision.Outcome

variable {c : Client} {source source' : Source} {names : List String} {call : Call}
  {s s' : Situation} {state state' : Cache.State} {order : Order}
  {credential credential' : Credential}

/-! ## What is seen and what is accepted -/

/-- Two situations that differ in the correlation id at most, and only if nobody looks at it, and in
    networks that do the same with requests that are the same but for some headers. -/
structure Parallel (names : List String) (s s' : Situation) : Prop where
  now_eq : s.now = s'.now
  cancelled_eq : s.cancelled = s'.cancelled
  correlation : "x-correlation-id" ∈ names ∨ s.correlation = s'.correlation
  agree : Http.Agree names s.network s'.network

/-- The result of a call, and what it sends as it is seen by who does not look at some headers. -/
def Outcome.seen (names : List String) (o : Outcome Answer) :
    Except EvaluationError Answer × List Http.Request :=
  (o.result, o.requests.map (Http.Request.without names))

/-- Every token that a call sends is accepted at its instant, and its first request has one. -/
structure Authorized (verifier : Verifier) (now : Instant) (requests : List Http.Request) :
    Prop where
  accepted : ∀ r ∈ requests, ∀ token, Http.bearer token ∈ r.headers.values "authorization" →
    ∃ claims, verifier.verify token now = .ok claims
  carried : ∀ r, requests.head? = some r →
    ∃ token, Http.bearer token ∈ r.headers.values "authorization"

theorem bearer_injective {token token' : String} (h : Http.bearer token = Http.bearer token') :
    token = token' := by
  simpa [Http.bearer] using h

/-! ## One exchange -/

/-- Where a call goes, with the headers for a name and a password, unless it is given up before. -/
def destination (c : Client) (call : Call) (cancelled : Bool) :
    Except Http.Failure (Url × Http.Headers) :=
  if call.cancellable && cancelled then .error .cancelled
  else do
    let url ← (Url.read (c.urlFor call.service)).mapError fun _ => .unsendable none
    let basic ← basicHeaders url
    .ok (url, basic)

/-- The token has no say in where a call goes. -/
theorem send_eq (h : Http.isValue credential.token = true) :
    c.send call order credential s = match c.destination call s.cancelled with
      | .error failure => (.error failure, [])
      | .ok (url, basic) => Http.exchange s.network call.cancellable
          (c.requestTo url basic order.body h s.correlation) := by
  unfold send destination
  rw [authenticated_eq h]
  cases call.cancellable && s.cancelled with
  | true => rfl
  | false =>
    simp only [Bool.false_eq_true, if_false]
    cases Url.read (c.urlFor call.service) with
    | error e => rfl
    | ok url =>
      simp only [mapError_ok, ok_bind]
      cases basicHeaders url with
      | error failure => rfl
      | ok basic => rfl

theorem basicHeaders_of_destination {cancelled : Bool} {url : Url} {basic : Http.Headers}
    (h : c.destination call cancelled = .ok (url, basic)) : basicHeaders url = .ok basic := by
  unfold destination at h
  split at h
  · exact absurd h (by simp)
  · simp only [bind_eq_ok_iff] at h
    obtain ⟨_, -, _, hbasic, hpair⟩ := h
    obtain ⟨rfl, rfl⟩ := Prod.mk.inj (Except.ok.inj hpair)
    exact hbasic

theorem requestTo_congr {token token' : String} {correlation correlation' : CorrelationId}
    (hauthorization : "authorization" ∈ names)
    (hcorrelation : "x-correlation-id" ∈ names ∨ correlation = correlation') (url : Url)
    (basic : Http.Headers) (body : Bytes) (h : Http.isValue token = true)
    (h' : Http.isValue token' = true) :
    (c.requestTo url basic body h correlation).without names =
      (c.requestTo url basic body h' correlation').without names := by
  refine Http.Request.without_eq_iff.2 ⟨rfl, rfl, ?_, rfl⟩
  refine Http.Headers.complete_congr ?_ ?_
  · rw [Http.Headers.without_append, Http.Headers.without_append]
    refine congrArg _ (Http.Headers.without_cons_congr ?_ _)
    have hid : Http.Headers.without [correlationHeader correlation] names =
        Http.Headers.without [correlationHeader correlation'] names := by
      rcases hcorrelation with hmem | rfl
      · exact (Http.Headers.without_cons_of_mem hmem).trans
          (Http.Headers.without_cons_of_mem hmem).symm
      · rfl
    exact (Http.Headers.without_cons_of_mem hauthorization).trans
      (hid.trans (Http.Headers.without_cons_of_mem hauthorization).symm)
  · intro name
    simp [Http.Headers.has, tokenHeader, correlationHeader]

/-- The URL of a call has no name and no password, and what is sent to it is answered at once. -/
structure Answered (c : Client) (call : Call) (s : Situation) (url : Url) : Prop where
  running : s.cancelled = false
  read : Url.read (c.urlFor call.service) = .ok url
  info : Http.userInfo? url = none
  sendable : Http.isSendable url = true
  answer : ∃ response : Http.Response, response.target? url = none ∧
    ∀ requests, s.network requests = ⟨.answered response, false⟩

variable {url url' : Url} {log : List Event} {after : Cache.State}

theorem Answered.url_requestTo (h : c.Answered call s url) {token : String}
    (htoken : Http.isValue token = true) :
    (c.requestTo url [] order.body htoken s.correlation).url = url := by
  simp only [requestTo, h.info]
  rfl

/-- With a credential, one request is sent. -/
theorem Answered.requests_perform (h : c.Answered call s url) (horder : c.order call = .ok order)
    (hissue : c.source.issue s.now state = (.ok credential, log, after))
    (htoken : Http.isValue credential.token = true) :
    (c.perform call s state).requests =
      [c.requestTo url [] order.body htoken s.correlation] := by
  have hdestination : c.destination call s.cancelled = .ok (url, []) := by
    have hbasic : basicHeaders url = .ok [] := by
      rw [basicHeaders, h.info]
      rfl
    rw [destination, h.running, Bool.and_false, if_neg (by simp), h.read, mapError_ok, ok_bind,
      hbasic, ok_bind]
  obtain ⟨response, htarget, hanswer⟩ := h.answer
  have hsendable := h.sendable
  rw [← h.url_requestTo htoken] at hsendable htarget
  have hreceives : Http.Receives s.network call.cancellable
      [c.requestTo url [] order.body htoken s.correlation] (.answered response) :=
    ⟨by rw [hanswer], by rw [hanswer, Bool.and_false]⟩
  rw [(perform_of_issue horder hissue).2.1, send_eq htoken, hdestination]
  exact congrArg Prod.snd (Http.exchange_of_answered hsendable hreceives htarget)

/-- With tokens that nobody looks at, the same comes back and the same is sent. -/
theorem send_congr (hauthorization : "authorization" ∈ names) (hs : Parallel names s s')
    (h : Http.isValue credential.token = true) (h' : Http.isValue credential'.token = true) :
    (c.send call order credential s).1 = (c.send call order credential' s').1 ∧
      (c.send call order credential s).2.map (Http.Request.without names) =
        (c.send call order credential' s').2.map (Http.Request.without names) := by
  rw [send_eq h, send_eq h', hs.cancelled_eq]
  rcases c.destination call s'.cancelled with failure | ⟨url, basic⟩
  · exact ⟨rfl, rfl⟩
  · exact Http.exchange_congr hs.agree call.cancellable
      (requestTo_congr hauthorization hs.correlation url basic order.body h h')

theorem authorized_nil (verifier : Verifier) (now : Instant) : Authorized verifier now [] :=
  ⟨by simp, by simp⟩

/-- What is sent with a credential that was signed less than a day before has its token and no
    other. -/
theorem authorized_send {issuer : Issuer} {minted : Instant} {nonce : Nonce}
    (hfresh : s.now.seconds < minted.seconds + Claims.lifetime) :
    Authorized issuer.verifier s.now (c.send call order (issuer.sign minted nonce) s).2 := by
  have htoken : Http.isValue (issuer.sign minted nonce).token = true :=
    Credential.isValue_token ..
  rw [send_eq htoken]
  rcases hdestination : c.destination call s.cancelled with failure | ⟨url, basic⟩
  · exact authorized_nil ..
  · have hbasic : basicHeaders url = .ok basic := basicHeaders_of_destination hdestination
    have hvalues : (c.requestTo url basic order.body htoken s.correlation).headers.values
        "authorization" = basic.values "authorization" ++
          [Http.bearer (issuer.sign minted nonce).token] := values_requestTo url basic htoken
    constructor
    · intro r hr token hmem
      rcases Http.values_exchange hr with hsame | hnone
      · rw [hsame, hvalues, List.mem_append, List.mem_singleton] at hmem
        rcases hmem with hmem | hmem
        · exact absurd hmem (bearer_not_mem_basicHeaders hbasic token)
        · rw [bearer_injective hmem]
          exact ⟨_, (Issuer.sign_accepted hfresh).1⟩
      · rw [hnone] at hmem
        exact absurd hmem (by simp)
    · intro r hr
      have hfirst := (Http.chain_exchange s.network call.cancellable
        (c.requestTo url basic order.body htoken s.correlation)).1.head r
          (by rw [← List.head?_eq_getElem?]; exact hr)
      rw [hfirst, hvalues]
      exact ⟨_, List.mem_append_right _ (List.mem_singleton.2 rfl)⟩

/-! ## One call -/

/-- The client with another source of credentials. -/
def withSource (c : Client) (source : Source) : Client := { c with source }

theorem order_withSource : (c.withSource source).order call = c.order call := by
  cases call <;> rfl

theorem send_withSource : (c.withSource source).send call order credential s =
    c.send call order credential s := by
  have hurl : (c.withSource source).urlFor call.service = c.urlFor call.service := rfl
  have hrequest (url : String) : (c.withSource source).authenticated url order.body credential.token
      s.correlation = c.authenticated url order.body credential.token s.correlation := by
    unfold authenticated
    rfl
  unfold send
  rw [hurl, hrequest]

/-- Whatever its source, a call sends accepted tokens only, and keeps the source sound. -/
theorem perform_sound (hsound : c.source.Sound state) (call : Call) (s : Situation) :
    c.source.Sound (c.perform call s state).state ∧
      Authorized c.source.base.verifier s.now (c.perform call s state).requests := by
  cases horder : c.order call with
  | error error =>
    rw [perform_of_refused horder]
    exact ⟨hsound, authorized_nil ..⟩
  | ok order =>
    cases hvalid : c.source.base.identity.validate with
    | error error =>
      rw [perform_of_no_credential horder (hsound.issue_of_invalid hvalid s.now)]
      exact ⟨hsound, authorized_nil ..⟩
    | ok =>
      obtain ⟨minted, nonce, log, after, hissue, hfresh, hafter⟩ :=
        hsound.issue_of_valid hvalid s.now
      obtain ⟨-, hrequests, hstate⟩ := perform_of_issue horder hissue
      rw [hrequests, hstate]
      exact ⟨hafter, authorized_send hfresh⟩

/-- Sources with the same issuer make no difference to what is seen of a call. -/
theorem perform_congr (hauthorization : "authorization" ∈ names) (hs : Parallel names s s')
    (hbase : source.base = source'.base) (hsound : source.Sound state)
    (hsound' : source'.Sound state') :
    ((c.withSource source).perform call s state).seen names =
      ((c.withSource source').perform call s' state').seen names := by
  cases horder : c.order call with
  | error error =>
    rw [perform_of_refused (order_withSource.trans horder),
      perform_of_refused (order_withSource.trans horder)]
    rfl
  | ok order =>
    have horder₁ : (c.withSource source).order call = .ok order := order_withSource.trans horder
    have horder₂ : (c.withSource source').order call = .ok order := order_withSource.trans horder
    cases hvalid : source.base.identity.validate with
    | error error =>
      have hissue := hsound.issue_of_invalid hvalid s.now
      have hissue' := hsound'.issue_of_invalid (hbase ▸ hvalid) s'.now
      rw [perform_of_no_credential horder₁ hissue, perform_of_no_credential horder₂ hissue']
      rfl
    | ok =>
      obtain ⟨minted, nonce, log, after, hissue, -⟩ := hsound.issue_of_valid hvalid s.now
      obtain ⟨minted', nonce', log', after', hissue', -⟩ :=
        hsound'.issue_of_valid (hbase ▸ hvalid) s'.now
      obtain ⟨hresult, hrequests, -⟩ := perform_of_issue horder₁ hissue
      obtain ⟨hresult', hrequests', -⟩ := perform_of_issue horder₂ hissue'
      have hsame : (c.send call order (source.base.sign minted nonce) s).1 =
            (c.send call order (source'.base.sign minted' nonce') s').1 ∧ _ :=
        send_congr hauthorization hs (Credential.isValue_token ..) (Credential.isValue_token ..)
      rw [send_withSource] at hresult hrequests hresult' hrequests'
      simp only [Outcome.seen, hresult, hrequests, hresult', hrequests', hsame.1, hsame.2]

/-! ## Any number of calls -/

/-- The same calls in parallel situations. -/
def ParallelSteps (names : List String) (steps steps' : List (Call × Situation)) : Prop :=
  List.Forall₂ (fun a b => a.1 = b.1 ∧ Parallel names a.2 b.2) steps steps'

/-- Each outcome belongs to a call, at whose instant all that it sends is accepted. -/
def AuthorizedSteps (verifier : Verifier) (steps : List (Call × Situation))
    (outcomes : List (Outcome Answer)) : Prop :=
  List.Forall₂ (fun a o => Authorized verifier a.2.now o.requests) steps outcomes

/-- Whatever their source, calls in a row send only tokens that are accepted at the instant of the
    call. -/
theorem session_authorized {steps : List (Call × Situation)} (hsound : c.source.Sound state) :
    AuthorizedSteps c.source.base.verifier steps (c.session steps state) := by
  induction steps generalizing state with
  | nil => exact .nil
  | cons step steps ih =>
    obtain ⟨hafter, hauthorized⟩ := perform_sound hsound step.1 step.2
    exact .cons hauthorized (ih hafter)

/-- Sources with the same issuer make no difference to what is seen of calls in a row. -/
theorem session_congr {steps steps' : List (Call × Situation)}
    (hauthorization : "authorization" ∈ names) (hsteps : ParallelSteps names steps steps')
    (hbase : source.base = source'.base) (hsound : source.Sound state)
    (hsound' : source'.Sound state') :
    ((c.withSource source).session steps state).map (Outcome.seen names) =
      ((c.withSource source').session steps' state').map (Outcome.seen names) := by
  induction hsteps generalizing state state' with
  | nil => rfl
  | @cons step step' steps steps' hstep _ ih =>
    obtain ⟨call, s⟩ := step
    obtain ⟨call', s'⟩ := step'
    obtain ⟨rfl, hs⟩ : call = call' ∧ Parallel names s s' := hstep
    have hafter : source.Sound ((c.withSource source).perform call s state).state :=
      (perform_sound (c := c.withSource source) hsound call s).1
    have hafter' : source'.Sound ((c.withSource source').perform call s' state').state :=
      (perform_sound (c := c.withSource source') hsound' call s').1
    simp only [session, List.map_cons]
    rw [perform_congr hauthorization hs hbase hsound hsound', ih hafter hafter']

/-- With a cache that holds nothing fresh, a call sends a new token, and a call that comes before the
    margin of its expiry sends the same one. -/
theorem exists_token_of_reuse {cache : Cache} {call' : Call} (hsource : c.source = .cache cache)
    (hvalid : cache.issuer.identity.validate = .ok ())
    (hnone : cache.reusable? s.now state = none)
    (hlater : s'.now.seconds + cache.margin.seconds.toNat < s.now.seconds + Claims.lifetime)
    (hcall : call.Valid) (hcall' : call'.Valid) (h : c.Answered call s url)
    (h' : c.Answered call' s' url') :
    ∃ token,
      (c.perform call s state).requests.map (fun r => r.headers.values "authorization") =
          [[Http.bearer token]] ∧
        (c.perform call' s' (c.perform call s state).state).requests.map
          (fun r => r.headers.values "authorization") = [[Http.bearer token]] := by
  obtain ⟨order, horder⟩ := exists_order_iff.2 hcall
  obtain ⟨order', horder'⟩ := exists_order_iff.2 hcall'
  obtain ⟨nonce, log, after, hminted, hreused⟩ := Cache.issue_twice hvalid hnone hlater
  have htoken : Http.isValue (cache.issuer.sign s.now nonce).token = true :=
    Credential.isValue_token ..
  have hissue : c.source.issue s.now state =
      (.ok (cache.issuer.sign s.now nonce), log, after) := by
    rw [hsource]
    exact hminted
  have hissue' : c.source.issue s'.now after =
      (.ok (cache.issuer.sign s.now nonce), [], after) := by
    rw [hsource]
    exact hreused
  refine ⟨(cache.issuer.sign s.now nonce).token, ?_, ?_⟩
  · rw [h.requests_perform horder hissue htoken, List.map_singleton, values_requestTo]
    rfl
  · rw [(perform_of_issue horder hissue).2.2, h'.requests_perform horder' hissue' htoken,
      List.map_singleton, values_requestTo]
    rfl

/-- A source has no say in whether there is a client. -/
theorem make_withSource (config : Config) (source source' : Source) :
    make config source' = (make config source).map (·.withSource source') := by
  unfold make
  cases config.endpointUrl with
  | error e => rfl
  | ok endpoint =>
    simp only [ok_bind]
    rcases List.mapM _ config.headers with e | headers
    · rfl
    · simp only [ok_bind]
      split
      · rfl
      · rfl

/-- A client has the endpoint of its configuration, and the source that it was given. -/
theorem of_make {config : Config} (h : make config source = .ok c) :
    config.endpointUrl = .ok c.endpoint ∧ c.source = source := by
  unfold make at h
  simp only [bind_eq_ok_iff] at h
  obtain ⟨endpoint, hendpoint, headers, -, hclient⟩ := h
  split at hclient
  · exact absurd hclient (by simp)
  · obtain rfl := Except.ok.inj hclient
    exact ⟨hendpoint, rfl⟩

theorem source_of_make {config : Config} (h : make config source = .ok c) : c.source = source :=
  (of_make h).2

theorem serve_authorized {config : Config} {entropy : Entropy} {steps : List (Call × Situation)}
    {outcomes : List (Outcome Answer)} (h : serve config source entropy steps = .ok outcomes) :
    AuthorizedSteps source.base.verifier steps outcomes := by
  obtain ⟨c, hmake, rfl⟩ := map_eq_ok_iff.1 h
  obtain rfl := source_of_make hmake
  exact session_authorized (c.source.sound_of_nothing_held entropy)

/-- **A cache does not show.** A client with a cache and a client with the issuer alone, asked the
    same calls at the same instants, return the same results and send the same requests but for the
    headers that the network does not look at, which are the token and the correlation id, unless
    that is the same for both. Every token that either of them sends is accepted at the instant of
    its call, and the first request of a call has one. -/
theorem serve_transparent (config : Config) (cache : Cache) (entropy entropy' : Entropy)
    (names : List String) (steps steps' : List (Call × Situation))
    (hauthorization : "authorization" ∈ names) (hsteps : ParallelSteps names steps steps') :
    (serve config (.cache cache) entropy steps).map (·.map (Outcome.seen names)) =
        (serve config (.issuer cache.issuer) entropy' steps').map (·.map (Outcome.seen names)) ∧
      (∀ outcomes, serve config (.cache cache) entropy steps = .ok outcomes →
        AuthorizedSteps cache.issuer.verifier steps outcomes) ∧
      ∀ outcomes, serve config (.issuer cache.issuer) entropy' steps' = .ok outcomes →
        AuthorizedSteps cache.issuer.verifier steps' outcomes := by
  refine ⟨?_, fun outcomes h => serve_authorized h, fun outcomes h => serve_authorized h⟩
  rw [serve, serve, make_withSource config (.cache cache) (.issuer cache.issuer)]
  cases hmake : make config (.cache cache) with
  | error e => rfl
  | ok c =>
    have hc : c = c.withSource (.cache cache) := by
      rw [withSource, ← source_of_make hmake]
    have hsession := session_congr (c := c) hauthorization hsteps
      (show (Source.cache cache).base = (Source.issuer cache.issuer).base from rfl)
      (Source.sound_of_nothing_held _ entropy) (Source.sound_of_nothing_held _ entropy')
    rw [← hc] at hsession
    exact congrArg Except.ok hsession

/-- Two calls a minute apart, with other correlation ids and other nonces on either side. Each sends
    one request, and the second one is served from the cache: it has the token of the first. -/
theorem serve_transparent_a_minute_apart :
    let network : Http.Network := fun _ =>
      ⟨.answered ⟨200, [], .whole (Text.Utf8.encode "\x7b\"allowed\":true\x7d")⟩, false⟩
    let later : Instant := ⟨60, 0, by decide, by decide, by decide⟩
    let steps (id : Nat) : List (Call × Situation) :=
      [(.evaluate "alice" "doc42" "read" .absent, ⟨.epoch, ⟨.ofNat 128 id⟩, network, false⟩),
        (.compile "admins may read", ⟨later, ⟨.ofNat 128 (id + 1)⟩, network, false⟩)]
    let names := ["authorization", "x-correlation-id"]
    let cache : Cache := ⟨⟨⟨"svc", "secret"⟩, .hs256, none⟩, Cache.defaultMargin⟩
    "authorization" ∈ names ∧ ParallelSteps names (steps 1) (steps 7) ∧
      ∃ outcomes outcomes' token,
        serve .default (.cache cache) (.countingFrom 0) (steps 1) = .ok outcomes ∧
        serve .default (.issuer cache.issuer) (.countingFrom 9) (steps 7) = .ok outcomes' ∧
        outcomes.map (Outcome.seen names) = outcomes'.map (Outcome.seen names) ∧
        AuthorizedSteps cache.issuer.verifier (steps 1) outcomes ∧
        outcomes.map (fun o => o.requests.map fun r => r.headers.values "authorization") =
          [[[Http.bearer token]], [[Http.bearer token]]] := by
  intro network later steps names cache
  have hauthorization : "authorization" ∈ names := by decide
  have hparallel (now : Instant) (id id' : Nat) : Parallel names
      ⟨now, ⟨.ofNat 128 id⟩, network, false⟩ ⟨now, ⟨.ofNat 128 id'⟩, network, false⟩ :=
    ⟨rfl, rfl, Or.inl (by decide), fun _ _ _ => rfl⟩
  have hsteps : ParallelSteps names (steps 1) (steps 7) :=
    .cons ⟨rfl, hparallel _ _ _⟩ (.cons ⟨rfl, hparallel _ _ _⟩ .nil)
  obtain ⟨hsame, hcached, -⟩ := serve_transparent .default cache (.countingFrom 0)
    (.countingFrom 9) names (steps 1) (steps 7) hauthorization hsteps
  let location (path : String) : Url := ⟨"http".toList, [], [], some (.domain "localhost".toList),
    some 8080, .segments [path.toList], none, none⟩
  let c : Client := ⟨.default, location "", [], .cache cache⟩
  have hmake : make .default (.cache cache) = .ok c := by
    have hendpoint : Config.default.endpointUrl = .ok (location "") := by decide +kernel
    rw [make, hendpoint]
    rfl
  have hserve : serve .default (.cache cache) (.countingFrom 0) (steps 1) =
      .ok (c.session (steps 1) ⟨none, .countingFrom 0⟩) := by
    rw [serve, hmake]
    rfl
  have hserve' : ∃ outcomes', serve .default (.issuer cache.issuer) (.countingFrom 9) (steps 7) =
      .ok outcomes' := by
    rw [serve, make_withSource _ (.cache cache), hmake]
    exact ⟨_, rfl⟩
  obtain ⟨outcomes', hserve'⟩ := hserve'
  rw [hserve, hserve'] at hsame
  have hread : Url.read (c.urlFor .checkAccess) = .ok (location "check-access") := by
    decide +kernel
  have hread' : Url.read (c.urlFor .compile) = .ok (location "compile") := by decide +kernel
  let s : Situation := ⟨.epoch, ⟨.ofNat 128 1⟩, network, false⟩
  let s' : Situation := ⟨later, ⟨.ofNat 128 2⟩, network, false⟩
  let state : Cache.State := ⟨none, .countingFrom 0⟩
  have hanswered : c.Answered (.evaluate "alice" "doc42" "read" .absent) s
      (location "check-access") :=
    ⟨rfl, hread, rfl, by decide, _, rfl, fun _ => rfl⟩
  have hanswered' : c.Answered (.compile "admins may read") s' (location "compile") :=
    ⟨rfl, hread', rfl, by decide, _, rfl, fun _ => rfl⟩
  have hvalid : (Call.evaluate "alice" "doc42" "read" .absent).Valid :=
    ⟨⟨by decide, by decide, by decide⟩, .null, rfl, Or.inl rfl⟩
  have hvalid' : (Call.compile "admins may read").Valid := by
    rw [Call.Valid]
    decide
  have hidentity : cache.issuer.identity.validate = .ok () := by decide +kernel
  have hnone : cache.reusable? s.now state = none := rfl
  have hlater : s'.now.seconds + cache.margin.seconds.toNat < s.now.seconds + Claims.lifetime := by
    decide
  obtain ⟨token, hfirst, hsecond⟩ := exists_token_of_reuse (c := c) rfl hidentity hnone hlater
    hvalid hvalid' hanswered hanswered'
  have hsession : c.session (steps 1) state =
      [c.perform (.evaluate "alice" "doc42" "read" .absent) s state,
        c.perform (.compile "admins may read") s'
          (c.perform (.evaluate "alice" "doc42" "read" .absent) s state).state] := rfl
  refine ⟨hauthorization, hsteps, _, outcomes', token, hserve, hserve', Except.ok.inj hsame,
    hcached _ hserve, ?_⟩
  rw [hsession, List.map_cons, List.map_singleton, hfirst, hsecond]

end AccessDecision.Client
