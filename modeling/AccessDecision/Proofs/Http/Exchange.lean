import AccessDecision.Http.Exchange
import AccessDecision.Proofs.Outcome

set_option autoImplicit false

/-! # How an exchange goes on and how it ends

An exchange goes from one request to the next along the redirects it is answered with (`Reaches`)
until something ends it (`Ends`). What it returns is how it ends at the last request that it reaches
(`exchange_cases`, `exchange_of_ends`), so whether it delivers an answer, breaks off or leaves the
web is up to the network (`exchange_eq_ok_iff`, `exchange_error_cases`), and what holds of the first
request and is kept by redirects holds of all that are sent (`Reaches.forall`). -/

namespace AccessDecision.Http

open AccessDecision.Outcome

variable {network : Network} {cancellable : Bool} {first request last : Request} {redirects : Nat}
  {earlier sent : List Request} {response : Response} {target : Url}
  {answer : Except Failure Response}

/-! ## Steps and ends -/

/-- What becomes of the last of some requests, unless the exchange has been given up by then. -/
structure Receives (network : Network) (cancellable : Bool) (sent : List Request)
    (reception : Reception) : Prop where
  reception_eq : (network sent).reception = reception
  running : (cancellable && (network sent).cancelled) = false

/-- The exchange that starts with a request comes to a later one, with some redirects left to follow
    and some requests sent before it. -/
inductive Reaches (network : Network) (cancellable : Bool) (first : Request) :
    Nat → List Request → Request → Prop
  | start (hsendable : isSendable first.url = true) :
    Reaches network cancellable first maxRedirects [] first
  | follow {redirects : Nat} {earlier : List Request} {request : Request} {response : Response}
    {target : Url} (hreaches : Reaches network cancellable first (redirects + 1) earlier request)
    (hreceives : Receives network cancellable (earlier ++ [request]) (.answered response))
    (htarget : response.target? request.url = some target) (hweb : isWeb target = true) :
    Reaches network cancellable first redirects (earlier ++ [request])
      (request.redirected response.status target)

/-- How the exchange that starts with a request ends at a later one. -/
inductive Ends (network : Network) (cancellable : Bool) (first : Request) (redirects : Nat)
    (earlier : List Request) (request : Request) : Except Failure Response → Prop
  | cancelled (hcancelled : (cancellable && (network (earlier ++ [request])).cancelled) = true) :
    Ends network cancellable first redirects earlier request (.error .cancelled)
  | unreachable (hreceives : Receives network cancellable (earlier ++ [request]) .unreachable) :
    Ends network cancellable first redirects earlier request (.error (.unreachable first.url))
  | timedOut (hreceives : Receives network cancellable (earlier ++ [request]) .timedOut) :
    Ends network cancellable first redirects earlier request (.error (.timedOut first.url))
  | broken (hreceives : Receives network cancellable (earlier ++ [request]) .broken) :
    Ends network cancellable first redirects earlier request (.error (.broken first.url))
  | answered {response : Response}
    (hreceives : Receives network cancellable (earlier ++ [request]) (.answered response))
    (htarget : response.target? request.url = none) :
    Ends network cancellable first redirects earlier request (.ok response)
  | tooManyRedirects {response : Response} {target : Url}
    (hreceives : Receives network cancellable (earlier ++ [request]) (.answered response))
    (htarget : response.target? request.url = some target) (hnone : redirects = 0) :
    Ends network cancellable first redirects earlier request
      (.error (.tooManyRedirects request.url))
  | notWeb {response : Response} {target : Url}
    (hreceives : Receives network cancellable (earlier ++ [request]) (.answered response))
    (htarget : response.target? request.url = some target) (hsome : redirects ≠ 0)
    (hweb : isWeb target = false) :
    Ends network cancellable first redirects earlier request (.error (.unsendable (some target)))

/-- The requests that reached a host, up to one that is sent after some others. -/
def received (network : Network) (earlier : List Request) (request : Request) : List Request :=
  if (network (earlier ++ [request])).reception = .unreachable then earlier
  else earlier ++ [request]

theorem received_isPrefix : received network earlier request <+: earlier ++ [request] := by
  unfold received
  split
  · exact List.prefix_append ..
  · exact List.prefix_rfl

theorem received_of_receives
    (h : Receives network cancellable (earlier ++ [request]) (.answered response)) :
    received network earlier request = earlier ++ [request] := by
  rw [received, h.reception_eq, if_neg (by simp)]

/-- At an end the exchange is over. -/
theorem exchangeFrom_of_ends (h : Ends network cancellable first redirects earlier request answer) :
    exchangeFrom network cancellable first.url redirects earlier request =
      (answer, received network earlier request) := by
  unfold exchangeFrom
  cases h with
  | cancelled hcancelled => simp [hcancelled, received]
  | unreachable hreceives => simp [hreceives.running, hreceives.reception_eq, received]
  | timedOut hreceives => simp [hreceives.running, hreceives.reception_eq, received]
  | broken hreceives => simp [hreceives.running, hreceives.reception_eq, received]
  | answered hreceives htarget =>
    simp [hreceives.running, hreceives.reception_eq, htarget, received]
  | tooManyRedirects hreceives htarget hnone =>
    simp [hreceives.running, hreceives.reception_eq, htarget, hnone, received]
  | notWeb hreceives htarget hsome hweb =>
    obtain ⟨n, rfl⟩ := Nat.exists_eq_succ_of_ne_zero hsome
    simp [hreceives.running, hreceives.reception_eq, htarget, hweb, received]

/-- A redirect to another URL of HTTP is followed. -/
theorem exchangeFrom_follow
    (hreceives : Receives network cancellable (earlier ++ [request]) (.answered response))
    (htarget : response.target? request.url = some target) (hweb : isWeb target = true) :
    exchangeFrom network cancellable first.url (redirects + 1) earlier request =
      exchangeFrom network cancellable first.url redirects (earlier ++ [request])
        (request.redirected response.status target) := by
  rw [exchangeFrom]
  simp [hreceives.running, hreceives.reception_eq, htarget, hweb]

/-- At each request the exchange ends or a redirect is followed. -/
theorem ends_or_follows (network : Network) (cancellable : Bool) (first : Request) (redirects : Nat)
    (earlier : List Request) (request : Request) :
    (∃ answer, Ends network cancellable first redirects earlier request answer) ∨
      ∃ n response target, redirects = n + 1 ∧
        Receives network cancellable (earlier ++ [request]) (.answered response) ∧
        response.target? request.url = some target ∧ isWeb target = true := by
  cases hcancelled : cancellable && (network (earlier ++ [request])).cancelled with
  | true => exact Or.inl ⟨_, .cancelled hcancelled⟩
  | false =>
    cases hreception : (network (earlier ++ [request])).reception with
    | unreachable => exact Or.inl ⟨_, .unreachable ⟨hreception, hcancelled⟩⟩
    | timedOut => exact Or.inl ⟨_, .timedOut ⟨hreception, hcancelled⟩⟩
    | broken => exact Or.inl ⟨_, .broken ⟨hreception, hcancelled⟩⟩
    | answered response =>
      have hreceives : Receives network cancellable (earlier ++ [request]) (.answered response) :=
        ⟨hreception, hcancelled⟩
      cases htarget : response.target? request.url with
      | none => exact Or.inl ⟨_, .answered hreceives htarget⟩
      | some target =>
        cases redirects with
        | zero => exact Or.inl ⟨_, .tooManyRedirects hreceives htarget rfl⟩
        | succ n =>
          cases hweb : isWeb target with
          | true => exact Or.inr ⟨n, response, target, rfl, hreceives, htarget, hweb⟩
          | false => exact Or.inl ⟨_, .notWeb hreceives htarget (by simp) hweb⟩

/-! ## Whole exchanges -/

/-- From wherever it has come to, an exchange gets to an end. -/
theorem Reaches.exists_ends (h : Reaches network cancellable first redirects earlier request) :
    ∃ n before last answer, Reaches network cancellable first n before last ∧
      Ends network cancellable first n before last answer := by
  induction redirects generalizing earlier request with
  | zero =>
    rcases ends_or_follows network cancellable first 0 earlier request with
      ⟨answer, hends⟩ | ⟨n, _, _, hzero, -⟩
    · exact ⟨0, earlier, request, answer, h, hends⟩
    · exact absurd hzero (by simp)
  | succ n ih =>
    rcases ends_or_follows network cancellable first (n + 1) earlier request with
      ⟨answer, hends⟩ | ⟨_, response, target, hn, hreceives, htarget, hweb⟩
    · exact ⟨n + 1, earlier, request, answer, h, hends⟩
    · exact ih (.follow h hreceives htarget hweb)

/-- An exchange goes on from a request that it reaches as if it had been there all the time. -/
theorem Reaches.exchangeFrom_eq (h : Reaches network cancellable first redirects earlier request) :
    exchangeFrom network cancellable first.url maxRedirects [] first =
      exchangeFrom network cancellable first.url redirects earlier request := by
  induction h with
  | start => rfl
  | follow _ hreceives htarget hweb ih => rw [ih, exchangeFrom_follow hreceives htarget hweb]

theorem Reaches.sendable (h : Reaches network cancellable first redirects earlier request) :
    isSendable first.url = true := by
  induction h with
  | start hsendable => exact hsendable
  | follow _ _ _ _ ih => exact ih

theorem exchange_of_not_sendable (h : isSendable request.url = false) :
    exchange network cancellable request = (.error (.unsendable (some request.url)), []) := by
  rw [exchange, h]
  rfl

theorem exchange_of_ends (hreaches : Reaches network cancellable first redirects earlier last)
    (hends : Ends network cancellable first redirects earlier last answer) :
    exchange network cancellable first =
      (answer >>= Response.whole, received network earlier last) := by
  rw [exchange, hreaches.sendable, hreaches.exchangeFrom_eq, exchangeFrom_of_ends hends]
  rfl

/-- An exchange does not start, or it ends at some request that it reaches. -/
theorem exchange_cases (network : Network) (cancellable : Bool) (first : Request) :
    isSendable first.url = false ∨ ∃ redirects earlier last answer,
      Reaches network cancellable first redirects earlier last ∧
        Ends network cancellable first redirects earlier last answer := by
  cases hsendable : isSendable first.url with
  | false => exact Or.inl rfl
  | true => exact Or.inr (Reaches.start hsendable).exists_ends

/-! ## Delivering and breaking off -/

/-- The exchange that starts with a request delivers a status and a body: it gets as far as an
    answer that is no redirect, and all of its body arrives. -/
def Delivers (network : Network) (cancellable : Bool) (first : Request) (status : Nat)
    (body : Bytes) : Prop :=
  ∃ redirects earlier last response, Reaches network cancellable first redirects earlier last ∧
    Receives network cancellable (earlier ++ [last]) (.answered response) ∧
    response.target? last.url = none ∧ response.status = status ∧ response.content = some body

/-- The exchange that starts with a request is not completed, though it has begun. -/
inductive BreaksOff (network : Network) (cancellable : Bool) (first : Request) : Prop
  /-- The cancellation token fires. -/
  | cancelled {redirects : Nat} {earlier : List Request} {last : Request}
    (hreaches : Reaches network cancellable first redirects earlier last)
    (hcancelled : (cancellable && (network (earlier ++ [last])).cancelled) = true)
  /-- There is no connection, no answer in time, or none that is HTTP. -/
  | unanswered {redirects : Nat} {earlier : List Request} {last : Request} {reception : Reception}
    (hreaches : Reaches network cancellable first redirects earlier last)
    (hreceives : Receives network cancellable (earlier ++ [last]) reception)
    (hlost : reception = .unreachable ∨ reception = .timedOut ∨ reception = .broken)
  /-- After the last redirect that is followed comes another one. -/
  | redirected {earlier : List Request} {last : Request} {response : Response} {target : Url}
    (hreaches : Reaches network cancellable first 0 earlier last)
    (hreceives : Receives network cancellable (earlier ++ [last]) (.answered response))
    (htarget : response.target? last.url = some target)
  /-- The body of the answer is not complete, or not there in time. -/
  | cutShort {redirects : Nat} {earlier : List Request} {last : Request} {response : Response}
    (hreaches : Reaches network cancellable first redirects earlier last)
    (hreceives : Receives network cancellable (earlier ++ [last]) (.answered response))
    (htarget : response.target? last.url = none) (hcontent : response.content = none)

/-- The exchange that starts with a request is redirected to a URI that is not of the web. -/
def LeavesWeb (network : Network) (cancellable : Bool) (first : Request) (target : Url) : Prop :=
  ∃ redirects earlier last response, Reaches network cancellable first redirects earlier last ∧
    redirects ≠ 0 ∧ Receives network cancellable (earlier ++ [last]) (.answered response) ∧
    response.target? last.url = some target ∧ isWeb target = false

theorem exchange_eq_ok_iff {status : Nat} {body : Bytes} :
    (exchange network cancellable first).1 = .ok (status, body) ↔
      Delivers network cancellable first status body := by
  constructor
  · intro h
    rcases exchange_cases network cancellable first with
      hsendable | ⟨redirects, earlier, last, answer, hreaches, hends⟩
    · rw [exchange_of_not_sendable hsendable] at h
      exact absurd h (by simp)
    · rw [exchange_of_ends hreaches hends] at h
      cases hends with
      | answered hreceives htarget =>
        rename_i response
        simp only [ok_bind, Response.whole] at h
        split at h
        · rename_i content hcontent
          simp only [Except.ok.injEq, Prod.mk.injEq] at h
          obtain ⟨rfl, rfl⟩ := h
          exact ⟨_, _, _, _, hreaches, hreceives, htarget, rfl, hcontent⟩
        · exact absurd h (by simp)
      | _ => exact absurd h (by simp)
  · rintro ⟨redirects, earlier, last, response, hreaches, hreceives, htarget, rfl, hcontent⟩
    rw [exchange_of_ends hreaches (.answered hreceives htarget), ok_bind, Response.whole, hcontent]

/-- A failure is one of the transport, or there is no request for some URL. -/
theorem Failure.toError_cases (failure : Failure) :
    failure.toError.isRetryable = true ∨ ∃ reason, failure.toError = .configuration reason := by
  cases failure with
  | unsendable url =>
    cases url with
    | none => exact Or.inr ⟨_, rfl⟩
    | some url => exact Or.inr ⟨_, rfl⟩
  | _ => exact Or.inl rfl

theorem Response.isRetryable_loss (r : Response) : r.loss.toError.isRetryable = true := by
  unfold Response.loss
  split
  · rfl
  · rfl

/-- An exchange fails because there is no request for its first URL, because it breaks off, or
    because it is redirected away from the web. -/
theorem exchange_error_cases {failure : Failure}
    (h : (exchange network cancellable first).1 = .error failure) :
    (isSendable first.url = false ∧ failure = .unsendable (some first.url)) ∨
      (BreaksOff network cancellable first ∧ failure.toError.isRetryable = true) ∨
      ∃ target, LeavesWeb network cancellable first target ∧
        failure = .unsendable (some target) := by
  rcases exchange_cases network cancellable first with
    hsendable | ⟨redirects, earlier, last, answer, hreaches, hends⟩
  · rw [exchange_of_not_sendable hsendable] at h
    exact Or.inl ⟨hsendable, (Except.error.inj h).symm⟩
  · right
    rw [exchange_of_ends hreaches hends] at h
    cases hends with
    | cancelled hcancelled =>
      obtain rfl := Except.error.inj h
      exact Or.inl ⟨.cancelled hreaches hcancelled, rfl⟩
    | unreachable hreceives =>
      obtain rfl := Except.error.inj h
      exact Or.inl ⟨.unanswered hreaches hreceives (Or.inl rfl), rfl⟩
    | timedOut hreceives =>
      obtain rfl := Except.error.inj h
      exact Or.inl ⟨.unanswered hreaches hreceives (Or.inr (Or.inl rfl)), rfl⟩
    | broken hreceives =>
      obtain rfl := Except.error.inj h
      exact Or.inl ⟨.unanswered hreaches hreceives (Or.inr (Or.inr rfl)), rfl⟩
    | tooManyRedirects hreceives htarget hnone =>
      subst hnone
      obtain rfl := Except.error.inj h
      exact Or.inl ⟨.redirected hreaches hreceives htarget, rfl⟩
    | notWeb hreceives htarget hsome hweb =>
      obtain rfl := Except.error.inj h
      exact Or.inr ⟨_, ⟨_, _, _, _, hreaches, hsome, hreceives, htarget, hweb⟩, rfl⟩
    | answered hreceives htarget =>
      rename_i response
      simp only [ok_bind, Response.whole] at h
      split at h
      · exact absurd h (by simp)
      · rename_i hcontent
        obtain rfl := Except.error.inj h
        exact Or.inl ⟨.cutShort hreaches hreceives htarget hcontent, response.isRetryable_loss⟩

/-- A failure is worth another try exactly if the exchange breaks off. -/
theorem retryable_exchange_iff :
    (∃ failure, (exchange network cancellable first).1 = .error failure ∧
        failure.toError.isRetryable = true) ↔
      BreaksOff network cancellable first := by
  constructor
  · rintro ⟨failure, hfailure, hretryable⟩
    rcases exchange_error_cases hfailure with ⟨-, rfl⟩ | ⟨hbreaks, -⟩ | ⟨target, -, rfl⟩
    · exact absurd hretryable (by simp [Failure.toError, EvaluationError.isRetryable])
    · exact hbreaks
    · exact absurd hretryable (by simp [Failure.toError, EvaluationError.isRetryable])
  · rintro (⟨hreaches, hcancelled⟩ | ⟨hreaches, hreceives, hlost⟩ |
      ⟨hreaches, hreceives, htarget⟩ | ⟨hreaches, hreceives, htarget, hcontent⟩)
    · exact ⟨_, by rw [exchange_of_ends hreaches (.cancelled hcancelled)]; rfl, rfl⟩
    · rcases hlost with rfl | rfl | rfl
      · exact ⟨_, by rw [exchange_of_ends hreaches (.unreachable hreceives)]; rfl, rfl⟩
      · exact ⟨_, by rw [exchange_of_ends hreaches (.timedOut hreceives)]; rfl, rfl⟩
      · exact ⟨_, by rw [exchange_of_ends hreaches (.broken hreceives)]; rfl, rfl⟩
    · rename_i last _ _
      refine ⟨.tooManyRedirects last.url, ?_, rfl⟩
      rw [exchange_of_ends hreaches (.tooManyRedirects hreceives htarget rfl)]
      rfl
    · rename_i response
      refine ⟨response.loss, ?_, response.isRetryable_loss⟩
      rw [exchange_of_ends hreaches (.answered hreceives htarget), ok_bind, Response.whole,
        hcontent]

/-- What holds of the first request and is kept by redirects holds of all. -/
theorem Reaches.forall {P : Request → Prop}
    (h : Reaches network cancellable first redirects earlier request) (hfirst : P first)
    (hkept : ∀ r status target, P r → P (r.redirected status target)) :
    ∀ r ∈ earlier ++ [request], P r := by
  induction h with
  | start => simpa using hfirst
  | follow _ _ _ _ ih =>
    intro r hr
    rcases List.mem_append.1 hr with hbefore | hlast
    · exact ih r hbefore
    · rw [List.mem_singleton.1 hlast]
      exact hkept _ _ _ (ih _ (by simp))

/-- Every redirect that is followed sends one more request. -/
theorem Reaches.length_add (h : Reaches network cancellable first redirects earlier request) :
    earlier.length + redirects = maxRedirects := by
  induction h with
  | start => simp
  | follow _ _ _ _ ih =>
    rw [List.length_append, List.length_singleton]
    omega

/-- Requests of which each follows the redirect that the one before is answered with. -/
structure Chain (network : Network) (cancellable : Bool) (first : Request) (sent : List Request) :
    Prop where
  head : ∀ r, sent[0]? = some r → r = first
  next : ∀ k r r', sent[k]? = some r → sent[k + 1]? = some r' → ∃ response target,
    Receives network cancellable (sent.take (k + 1)) (.answered response) ∧
      response.target? r.url = some target ∧ isWeb target = true ∧
      r' = r.redirected response.status target

theorem Reaches.chain (h : Reaches network cancellable first redirects earlier request) :
    Chain network cancellable first (earlier ++ [request]) := by
  induction h with
  | start =>
    constructor
    · intro r hr
      simpa using hr.symm
    · intro k r r' _ hr'
      exact absurd hr' (by simp)
  | @follow redirects earlier request response target _ hreceives htarget hweb ih =>
    have hlength : (earlier ++ [request]).length = earlier.length + 1 := by simp
    constructor
    · intro r hr
      rw [List.getElem?_append_left (by omega)] at hr
      exact ih.head r hr
    · intro k r r' hr hr'
      by_cases hk : k < earlier.length
      · rw [List.getElem?_append_left (by omega)] at hr hr'
        rw [List.take_append_of_le_length (by omega)]
        exact ih.next k r r' hr hr'
      · -- the last step is the one that is followed now
        have hbound := (List.getElem?_eq_some_iff.1 hr').1
        obtain rfl : k = earlier.length := by
          rw [List.length_append, List.length_singleton] at hbound
          omega
        rw [List.getElem?_append_left (by omega), List.getElem?_concat_length] at hr
        rw [← hlength, List.getElem?_concat_length] at hr'
        obtain rfl := Option.some.inj hr
        obtain rfl := Option.some.inj hr'
        refine ⟨response, target, ?_, htarget, hweb, rfl⟩
        rw [List.take_left' hlength]
        exact hreceives

theorem Chain.of_isPrefix (h : Chain network cancellable first sent) {front : List Request}
    (hfront : front <+: sent) : Chain network cancellable first front := by
  obtain ⟨back, rfl⟩ := hfront
  have hold {k : Nat} {r : Request} (hr : front[k]? = some r) : (front ++ back)[k]? = some r := by
    rw [List.getElem?_append_left (List.getElem?_eq_some_iff.1 hr).1, hr]
  constructor
  · intro r hr
    exact h.head r (hold hr)
  · intro k r r' hr hr'
    have hlength := (List.getElem?_eq_some_iff.1 hr').1
    have htake : (front ++ back).take (k + 1) = front.take (k + 1) :=
      List.take_append_of_le_length (by omega)
    rw [← htake]
    exact h.next k r r' (hold hr) (hold hr')

/-- What an exchange sends is a chain of at most eleven requests. -/
theorem chain_exchange (network : Network) (cancellable : Bool) (first : Request) :
    Chain network cancellable first (exchange network cancellable first).2 ∧
      (exchange network cancellable first).2.length ≤ maxRedirects + 1 := by
  rcases exchange_cases network cancellable first with
    hsendable | ⟨redirects, earlier, last, answer, hreaches, hends⟩
  · rw [exchange_of_not_sendable hsendable]
    exact ⟨⟨by simp, by simp⟩, by simp⟩
  · rw [exchange_of_ends hreaches hends]
    have hfront : received network earlier last <+: earlier ++ [last] := received_isPrefix
    have hreached := hreaches.length_add
    have hlength := hfront.length_le
    rw [List.length_append, List.length_singleton] at hlength
    refine ⟨hreaches.chain.of_isPrefix hfront, ?_⟩
    dsimp only
    omega

/-- What holds of the first request and is kept by redirects holds of all that an exchange sends. -/
theorem exchange_forall {P : Request → Prop} (hfirst : P first)
    (hkept : ∀ r status target, P r → P (r.redirected status target)) :
    ∀ r ∈ (exchange network cancellable first).2, P r := by
  rcases exchange_cases network cancellable first with
    hsendable | ⟨redirects, earlier, last, answer, hreaches, hends⟩
  · rw [exchange_of_not_sendable hsendable]
    exact fun r hr => absurd hr (by simp)
  · rw [exchange_of_ends hreaches hends]
    exact fun r hr => hreaches.forall hfirst hkept r (received_isPrefix.subset hr)

/-- An answer that is no redirect is what the exchange returns, and the only one. -/
theorem exchange_of_answered (hsendable : isSendable first.url = true)
    (hreceives : Receives network cancellable [first] (.answered response))
    (htarget : response.target? first.url = none) :
    exchange network cancellable first = (response.whole, [first]) := by
  have hends : Ends network cancellable first maxRedirects [] first (.ok response) :=
    .answered hreceives htarget
  rw [exchange_of_ends (.start hsendable) hends, received_of_receives hreceives]
  rfl

/-- A redirect is followed to an answer that is none. -/
theorem exchange_of_redirected {final : Response} (hsendable : isSendable first.url = true)
    (hreceives : Receives network cancellable [first] (.answered response))
    (htarget : response.target? first.url = some target) (hweb : isWeb target = true)
    (hnext : Receives network cancellable [first, first.redirected response.status target]
      (.answered final))
    (hfinal : final.target? target = none) :
    exchange network cancellable first =
      (final.whole, [first, first.redirected response.status target]) := by
  have hreaches : Reaches network cancellable first 9 [first]
      (first.redirected response.status target) :=
    .follow (.start hsendable) hreceives htarget hweb
  rw [exchange_of_ends hreaches (.answered hnext hfinal), received_of_receives hnext]
  rfl

end AccessDecision.Http
