import AccessDecision.Proofs.Client.Location
import AccessDecision.Proofs.Client.Refusal
import AccessDecision.Proofs.Http.Uri

set_option autoImplicit false

/-! # Configuration that fails at a call

A configuration is checked when a client is made, but its endpoint is checked as a URL of the web
only, and a request can name less than that: the URL of a service has to be read once more, and it
has to be a URI, so it must not be too long, and some marks that a domain may have must not be in
its host. Each of these is a property of the endpoint (`Client.Fault`), so it could be told from the
start. Headers are never at fault: tokens, correlation ids, and the name and the password of a URL
can all stand in one, and those of the configuration are checked. So a call finds fault with its
configuration exactly if its endpoint has such a fault, or if a redirect leads to a URI that is not
of the web (`Client.perform_configuration`); with a brace in the host of an accepted endpoint every call that
comes to be sent does (`Client.perform_brace_in_host`). -/

namespace AccessDecision.Client

open AccessDecision.Outcome Url

variable {c : Client} {config : Config} {source : Source} {call : Call} {s : Situation}
  {state : Cache.State} {order : Order} {credential : Credential} {service : Service}
  {token reason : String} {body : Bytes} {correlation : CorrelationId}

/-! ## Faults of an endpoint -/

/-- The host of the endpoint can be read again; a domain may be too long for that. -/
def Legible (c : Client) : Prop :=
  ∀ ascii, c.endpoint.host = some (.domain ascii) → Domain.convert? ascii ≠ none

/-- Where the request for a service goes. A name and a password that go along as a header are no
    part of it. -/
def target (c : Client) (service : Service) : Url :=
  let url := c.endpoint.under service.path.toList
  if (Http.userInfo? url).isSome then url.withoutUserInfo else url

/-- Why nothing can be sent to a service under an endpoint, in the words of a call. -/
inductive Fault (c : Client) (service : Service) : String → Prop
  | illegible {ascii : List Char} (hhost : c.endpoint.host = some (.domain ascii))
    (hnone : Domain.convert? ascii = none) : Fault c service "builder error"
  | host {mark : Char} (hlegible : c.Legible) (hmark : mark ∈ ['"', '\x60', '\x7b', '\x7d'])
    (hmem : mark ∈ c.endpoint.hostChars) :
    Fault c service (Http.Failure.about "builder error" (c.target service))
  | length (hlegible : c.Legible) (hlong : 0xFFFF ≤ (c.target service).chars.length) :
    Fault c service (Http.Failure.about "builder error" (c.target service))

/-- The exchange of a cleared call is redirected to a URI that is not of the web. -/
def LeavesWeb (c : Client) (call : Call) (s : Situation) (state : Cache.State) (target : Url) :
    Prop :=
  ∃ order credential request, c.Cleared call s state order credential ∧
    (call.cancellable && s.cancelled) = false ∧
    c.authenticated (c.urlFor call.service) order.body credential.token s.correlation =
      .ok request ∧
    Http.LeavesWeb s.network call.cancellable request target

/-- A call is cleared if its input is valid and the identity of the client can sign. -/
theorem exists_cleared_iff (hsound : c.source.Sound state) :
    (∃ order credential, c.Cleared call s state order credential) ↔
      call.Valid ∧ c.source.base.identity.validate = .ok () := by
  constructor
  · rintro ⟨order, credential, h⟩
    refine ⟨h.valid, ?_⟩
    cases hvalidate : c.source.base.identity.validate with
    | ok => rfl
    | error error =>
      have hissued := h.issued
      rw [hsound.issue_of_invalid hvalidate] at hissued
      exact absurd hissued (by simp)
  · rintro ⟨hvalid, hidentity⟩
    obtain ⟨order, horder⟩ := exists_order_iff.2 hvalid
    obtain ⟨minted, nonce, log, after, hissue, -⟩ := hsound.issue_of_valid hidentity s.now
    exact ⟨order, _, hvalid, horder, by rw [hissue]⟩

/-- What a call is cleared with is a token that can stand in a header. -/
theorem Cleared.isValue_token (h : c.Cleared call s state order credential)
    (hsound : c.source.Sound state) : Http.isValue credential.token = true := by
  obtain ⟨-, hidentity⟩ := (exists_cleared_iff hsound).1 ⟨order, credential, h⟩
  obtain ⟨minted, nonce, log, after, hissue, -⟩ := hsound.issue_of_valid hidentity s.now
  have hissued := h.issued
  rw [hissue] at hissued
  obtain rfl := Except.ok.inj hissued
  exact Credential.isValue_token ..

end AccessDecision.Client
