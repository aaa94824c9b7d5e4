import AccessDecision.Proofs.Client.Interpretation
import AccessDecision.Proofs.Credential.Source
import AccessDecision.Proofs.Http.Race

set_option autoImplicit false

/-! # Giving up a call

A call with a cancellation token is the same call without one, raced against the token. Whatever
happens on the way and in whatever order, the token wins if it has fired by the moment at which the
exchange yields its result, and makes no difference otherwise; the credential is issued before the
race and is kept either way (`Client.perform_cancellable`). -/

namespace AccessDecision

open AccessDecision.Outcome

/-- What a call meets if things happen as a timeline says. The call starts at the moment zero. -/
def Http.Timeline.situation (t : Http.Timeline) (now : Instant) (correlation : CorrelationId) :
    Client.Situation where
  now := now
  correlation := correlation
  network := t.network
  cancelled := t.fired 0

namespace Client

variable {c : Client} {request : Request .access} {t : Http.Timeline} {now : Instant}
  {correlation : CorrelationId} {state after : Cache.State} {credential : Credential}
  {log : List Event} {moment : Nat}

/-- The moment at which the exchange of a request for access yields its result, if nothing gives it
    up. Where there is no request to send, that is known at once. -/
inductive YieldsAt (c : Client) (request : Request .access) (credential : Credential)
    (correlation : CorrelationId) (t : Http.Timeline) : Nat → Prop
  | unsent {failure : Http.Failure}
    (hfirst : c.authenticated (c.urlFor .checkAccess) (c.accessOrder request).body
      credential.token correlation = .error failure) :
    YieldsAt c request credential correlation t 0
  | exchanged {first : Http.Request} {moment : Nat}
    {outcome : Except Http.Failure (Nat × Bytes) × List Http.Request}
    (hfirst : c.authenticated (c.urlFor .checkAccess) (c.accessOrder request).body
      credential.token correlation = .ok first)
    (hrace : Http.Race t false first 0 .idle moment outcome) :
    YieldsAt c request credential correlation t moment

/-- There is such a moment. -/
theorem exists_yieldsAt (c : Client) (request : Request .access) (credential : Credential)
    (correlation : CorrelationId) (t : Http.Timeline) :
    ∃ moment, c.YieldsAt request credential correlation t moment := by
  cases hfirst : c.authenticated (c.urlFor .checkAccess) (c.accessOrder request).body
    credential.token correlation with
  | error failure => exact ⟨0, .unsent hfirst⟩
  | ok first =>
    obtain ⟨last, hrace⟩ := Http.race_exchange t false first rfl
    exact ⟨last, .exchanged hfirst hrace⟩

/-! ## What is sent -/

section Send

variable {order : Order} {failure : Http.Failure} {first : Http.Request}

/-- A token that has fired before the call stops the exchange before anything is sent. -/
theorem send_of_fired_before (h : t.fired 0 = true) :
    c.send (.evaluateCancellable request) order credential (t.situation now correlation) =
      (.error .cancelled, []) :=
  if_pos h

/-- Where there is no request, there is no exchange that the token could give up. -/
theorem send_of_unsent (call : Call) (hrunning : (call.cancellable && t.fired 0) = false)
    (hfirst : c.authenticated (c.urlFor call.service) order.body credential.token correlation =
      .error failure) :
    c.send call order credential (t.situation now correlation) = (.error failure, []) := by
  rw [send, show (t.situation now correlation).cancelled = t.fired 0 from rfl, hrunning,
    show (t.situation now correlation).correlation = correlation from rfl, hfirst]
  rfl

/-- A request is exchanged over the network of the timeline. -/
theorem send_of_exchanged (call : Call) (hrunning : (call.cancellable && t.fired 0) = false)
    (hfirst : c.authenticated (c.urlFor call.service) order.body credential.token correlation =
      .ok first) :
    c.send call order credential (t.situation now correlation) =
      Http.exchange t.network call.cancellable first := by
  rw [send, show (t.situation now correlation).cancelled = t.fired 0 from rfl, hrunning,
    show (t.situation now correlation).correlation = correlation from rfl, hfirst]
  rfl

end Send

/-- A token that has fired when the exchange would yield its result wins. -/
theorem send_of_fired (hyields : c.YieldsAt request credential correlation t moment)
    (hfired : t.fired moment = true) :
    (c.send (.evaluateCancellable request) (c.accessOrder request) credential
      (t.situation now correlation)).1 = .error .cancelled := by
  cases hstart : t.fired 0 with
  | true => rw [send_of_fired_before hstart]
  | false =>
    cases hyields with
    | unsent _ => exact absurd (hstart.symm.trans hfired) (by simp)
    | @exchanged first _ _ hfirst hrace =>
      -- the race with the token, and what it comes to according to the exchange
      obtain ⟨given, sent, hgiven⟩ := hrace.cancelled_of_fired hfired
      obtain ⟨last, hexchange⟩ := Http.race_exchange t true first hstart
      rw [send_of_exchanged (.evaluateCancellable request) hstart hfirst]
      exact congrArg Prod.fst (hexchange.unique hgiven).2

/-- A token that has not fired when the exchange yields its result makes no difference. -/
theorem send_of_not_fired (hyields : c.YieldsAt request credential correlation t moment)
    (hfired : t.fired moment = false) :
    c.send (.evaluateCancellable request) (c.accessOrder request) credential
        (t.situation now correlation) =
      c.send (.evaluateRequest request) (c.accessOrder request) credential
        (t.situation now correlation) := by
  have hstart : t.fired 0 = false := by
    rw [← Bool.not_eq_true]
    intro hzero
    exact absurd (hfired.symm.trans (Http.Timeline.fired_mono (Nat.zero_le moment) hzero)) (by simp)
  cases hyields with
  | unsent hfirst =>
    rw [send_of_unsent (.evaluateCancellable request) hstart hfirst,
      send_of_unsent (.evaluateRequest request) rfl hfirst]
  | @exchanged first _ _ hfirst hrace =>
    obtain ⟨last, hguarded⟩ := Http.race_exchange t true first hstart
    obtain ⟨last', hplain⟩ := Http.race_exchange t false first rfl
    obtain ⟨rfl, rfl⟩ := hplain.unique hrace
    rw [send_of_exchanged (.evaluateCancellable request) hstart hfirst,
      send_of_exchanged (.evaluateRequest request) rfl hfirst]
    exact (hguarded.unique (hrace.of_not_fired hfired)).2

/-! ## What the call comes to -/

/-- The token has no say in what becomes of the credentials. -/
theorem state_evaluateCancellable (c : Client) (request : Request .access) (s : Situation)
    (state : Cache.State) :
    (c.perform (.evaluateCancellable request) s state).state =
      (c.perform (.evaluateRequest request) s state).state := by
  have horder : c.order (.evaluateRequest request) = .ok (c.accessOrder request) := rfl
  have horder' : c.order (.evaluateCancellable request) = .ok (c.accessOrder request) := rfl
  rcases hissue : c.source.issue s.now state with ⟨error | credential, log, after⟩
  · rw [perform_of_no_credential horder hissue, perform_of_no_credential horder' hissue]
  · rw [(perform_of_issue horder hissue).2.2, (perform_of_issue horder' hissue).2.2]

/-- **Cancellation is clean.** Once a credential is issued, a call with a cancellation token comes
    out as cancelled if the token has fired by the moment at which the exchange would yield its
    result, and as the same call without a token otherwise, whatever arrives or fails in between and
    in whatever order. If the token had fired before the call, nothing is sent. And the token never
    has a say in what becomes of the credentials. -/
theorem perform_cancellable (c : Client) (request : Request .access) (t : Http.Timeline)
    (now : Instant) (correlation : CorrelationId) (state : Cache.State) :
    (∀ credential, (c.source.issue now state).1 = .ok credential →
      (∃ moment, c.YieldsAt request credential correlation t moment) ∧
      (∀ moment, c.YieldsAt request credential correlation t moment →
        (t.fired moment = true →
          (c.perform (.evaluateCancellable request) (t.situation now correlation) state).result =
            .error (.transport .cancelled)) ∧
        (t.fired moment = false →
          c.perform (.evaluateCancellable request) (t.situation now correlation) state =
            c.perform (.evaluateRequest request) (t.situation now correlation) state)) ∧
      (t.fired 0 = true →
        (c.perform (.evaluateCancellable request) (t.situation now correlation) state).result =
            .error (.transport .cancelled) ∧
          (c.perform (.evaluateCancellable request) (t.situation now correlation) state).requests =
            [])) ∧
    (c.perform (.evaluateCancellable request) (t.situation now correlation) state).state =
      (c.perform (.evaluateRequest request) (t.situation now correlation) state).state := by
  refine ⟨fun credential hcredential => ?_, c.state_evaluateCancellable request _ state⟩
  have horder : c.order (.evaluateRequest request) = .ok (c.accessOrder request) := rfl
  have horder' : c.order (.evaluateCancellable request) = .ok (c.accessOrder request) := rfl
  obtain ⟨log, after, hissue⟩ : ∃ log after,
      c.source.issue (t.situation now correlation).now state = (.ok credential, log, after) :=
    ⟨_, _, Prod.ext hcredential rfl⟩
  obtain ⟨hresult, hrequests, -⟩ := perform_of_issue horder' hissue
  refine ⟨c.exists_yieldsAt request credential correlation t, fun moment hyields => ⟨?_, ?_⟩, ?_⟩
  · intro hfired
    rw [hresult, send_of_fired hyields hfired]
    rfl
  · intro hfired
    rw [perform_eq_conclude horder' hissue, perform_eq_conclude horder hissue,
      send_of_not_fired hyields hfired]
    rfl
  · intro hfired
    rw [hresult, hrequests, send_of_fired_before hfired]
    exact ⟨rfl, rfl⟩

/-- The head of the answer takes two moments and its body three more. A token that fires before the
    call, between the two, together with the end of the body, and only after it, when access has
    been granted. -/
theorem perform_cancellable_before_between_tied_and_late :
    let c : Client := ⟨.default, ⟨"http".toList, [], [], some (.domain "localhost".toList),
      some 8080, .segments [[]], none, none⟩, [], .issuer ⟨⟨"svc", "secret"⟩, .hs256, none⟩⟩
    let request : Request .access := ⟨none, "alice", "doc42", "read", .object [], by decide,
      by decide, by decide, rfl, ⟨List.Pairwise.nil, trivial⟩⟩
    let response : Http.Response :=
      ⟨200, [], .whole (Text.Utf8.encode "\x7b\"allowed\":true\x7d")⟩
    let meeting (fires : Nat) : Situation := Http.Timeline.situation
      ⟨fun _ => .answered response, fun _ => 2, fun _ => 3, some fires⟩ .epoch ⟨0⟩
    let state : Cache.State := ⟨none, .countingFrom 0⟩
    let guarded (fires : Nat) := c.perform (.evaluateCancellable request) (meeting fires) state
    (guarded 0).requests = [] ∧
      (guarded 3).result = .error (.transport .cancelled) ∧
      (guarded 5).result = .error (.transport .cancelled) ∧
      guarded 6 = c.perform (.evaluateRequest request) (meeting 6) state ∧
      ∃ d, (guarded 6).result = .ok (.decision d) ∧ d.allowed = true := by
  intro c request response meeting state guarded
  let t (fires : Nat) : Http.Timeline :=
    ⟨fun _ => .answered response, fun _ => 2, fun _ => 3, some fires⟩
  obtain ⟨minted, nonce, log, after, hissue, -⟩ :=
    (c.source.sound_of_nothing_held (.countingFrom 0)).issue_of_valid (by decide +kernel) .epoch
  let credential := c.source.base.sign minted nonce
  have hcredential : (c.source.issue .epoch state).1 = .ok credential := congrArg Prod.fst hissue
  -- the token is of no account, so its signature is never computed
  obtain ⟨first, hfirst, hsendable⟩ : ∃ first, c.authenticated (c.urlFor .checkAccess)
      (c.accessOrder request).body credential.token ⟨0⟩ = .ok first ∧
      Http.isSendable first.url = true := by
    let location : Url := ⟨"http".toList, [], [], some (.domain "localhost".toList), some 8080,
      .segments ["check-access".toList], none, none⟩
    have hread : Url.read (c.urlFor .checkAccess) = .ok location := by decide +kernel
    have hsendable : Http.isSendable location = true := by decide
    have htoken : Http.isValue credential.token = true := Credential.isValue_token ..
    rw [authenticated_eq htoken, hread]
    exact ⟨_, rfl, hsendable⟩
  have hyields (fires : Nat) : c.YieldsAt request credential ⟨0⟩ (t fires) 5 := by
    have hreaches : Http.Reaches (t fires).network false first Http.maxRedirects [] first :=
      .start hsendable
    obtain ⟨moment, hle, hrace⟩ := hreaches.race rfl
    exact .exchanged hfirst (hrace _ _ (.of_answered ⟨rfl, rfl⟩ rfl hle))
  have hclean (fires : Nat) :=
    (perform_cancellable c request (t fires) .epoch ⟨0⟩ state).1 credential hcredential
  have hlate : guarded 6 = c.perform (.evaluateRequest request) (meeting 6) state :=
    ((hclean 6).2.1 5 (hyields 6)).2 rfl
  have hcompletes : c.Completes (.evaluateRequest request) (meeting 6) state 200
      (Text.Utf8.encode "\x7b\"allowed\":true\x7d") :=
    ⟨_, credential, first, ⟨trivial, rfl, hcredential⟩, rfl, hfirst, _, [], first, response,
      .start hsendable, ⟨rfl, rfl⟩, rfl, rfl, rfl⟩
  have hgranted := result_eq_ok_iff.2 ⟨200, _, hcompletes, by decide, by decide, reads_granted⟩
  exact ⟨((hclean 0).2.2 rfl).2, ((hclean 3).2.1 5 (hyields 3)).1 rfl,
    ((hclean 5).2.1 5 (hyields 5)).1 rfl, hlate, _, hlate ▸ hgranted, rfl⟩

end Client

end AccessDecision
