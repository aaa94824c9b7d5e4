import AccessDecision.Proofs.Http.Exchange
import Mathlib.Data.List.Basic
import Mathlib.Data.Nat.Init

set_option autoImplicit false

/-! # An exchange against its cancellation token

`exchange` is told for each request whether the token had fired when its answer became known. Here
is how that comes about. A `Timeline` says when the head of each answer arrives, when its body is
read, and when the token fires, in any order and any of them at once. The exchange is polled moment
by moment: it goes as far as what has arrived by then allows (`Timeline.poll`), but the token is
polled first, and once it has fired the exchange is dropped where it stands (`Race`).

Whoever wins the race of a timeline, the outcome is what `exchange` returns over its network
(`race_exchange`). And the race with a token is the race without it up to the moment at which the
exchange yields its result: a token that has fired by then wins (`Race.cancelled_of_fired`), also a
tie, and one that has not makes no difference (`Race.of_not_fired`). -/

namespace AccessDecision.Http

open AccessDecision.Outcome

/-! ## Timelines -/

/-- What becomes of the requests of an exchange, and when. -/
structure Timeline where
  /-- What becomes of the last of the requests sent so far. -/
  reception : List Request → Reception
  /-- How long it takes until the head of its answer is there, or its failure. -/
  head : List Request → Nat
  /-- How long it takes from the head until the body is there, or is known to be missed. -/
  body : List Request → Nat
  /-- The moment at which the cancellation token fires, if it does. -/
  fires : Option Nat

namespace Timeline

/-- Whether the token has fired at a moment. -/
def fired (t : Timeline) (moment : Nat) : Bool := t.fires.any (· ≤ moment)

/-- The moment at which the head of the last answer is there. -/
def arrival (t : Timeline) (sent : List Request) : Nat :=
  (List.range sent.length).foldl (fun moment k => moment + t.head (sent.take (k + 1))) 0

/-- Whether the last request is answered for good, so that the body of the answer is read. -/
def isFinal (t : Timeline) (sent : List Request) : Bool :=
  match t.reception sent, sent.getLast? with
  | .answered response, some request => (response.target? request.url).isNone
  | _, _ => false

/-- The moment at which it is known what becomes of the last request. -/
def settled (t : Timeline) (sent : List Request) : Nat :=
  t.arrival sent + if t.isFinal sent then t.body sent else 0

/-- The network of a timeline. -/
def network (t : Timeline) : Network := fun sent => ⟨t.reception sent, t.fired (t.settled sent)⟩

variable {t : Timeline} {moment later : Nat} {earlier sent : List Request} {request : Request}

theorem fired_mono (hle : moment ≤ later) (h : t.fired moment = true) : t.fired later = true := by
  simp only [fired, Option.any_eq_true, decide_eq_true_eq] at h ⊢
  obtain ⟨n, hn, hfired⟩ := h
  exact ⟨n, hn, Nat.le_trans hfired hle⟩

theorem arrival_concat (t : Timeline) (earlier : List Request) (request : Request) :
    t.arrival (earlier ++ [request]) = t.arrival earlier + t.head (earlier ++ [request]) := by
  have hbefore : t.arrival earlier = (List.range earlier.length).foldl
      (fun moment k => moment + t.head ((earlier ++ [request]).take (k + 1))) 0 := by
    refine List.foldl_ext _ _ _ fun moment k hk => ?_
    rw [List.take_append_of_le_length (List.mem_range.1 hk)]
  rw [hbefore, arrival, List.length_append, List.length_singleton, List.range_succ,
    List.foldl_append, List.foldl_cons, List.foldl_nil, List.take_of_length_le (by simp)]

theorem arrival_le_settled (t : Timeline) (sent : List Request) : t.arrival sent ≤ t.settled sent :=
  Nat.le_add_right ..

theorem isFinal_iff : t.isFinal (earlier ++ [request]) = true ↔ ∃ response,
    t.reception (earlier ++ [request]) = .answered response ∧
      response.target? request.url = none := by
  rw [isFinal, List.getLast?_concat]
  cases t.reception (earlier ++ [request]) with
  | answered response => simp
  | unreachable | timedOut | broken => simp

/-- Nothing more is waited for behind a failure or a redirect. -/
theorem settled_of_not_final (h : t.isFinal sent = false) : t.settled sent = t.arrival sent := by
  rw [settled, h]
  rfl

end Timeline

/-! ## Polling -/

/-- How far an exchange has come. -/
inductive Stage where
  /-- Nothing has been sent yet. -/
  | idle
  /-- A request is sent, and the head of its answer is there from the moment `due` on. -/
  | waiting (redirects : Nat) (earlier : List Request) (request : Request) (due : Nat)
  /-- An answer is there, and all of its body from the moment `due` on. -/
  | reading (sent : List Request) (response : Response) (due : Nat)
  | done (result : Except Failure (Nat × Bytes)) (sent : List Request)

namespace Timeline

/-- The requests that have reached a host by then. -/
def sentBy (t : Timeline) : Stage → List Request
  | .idle => []
  | .waiting _ earlier request _ => received t.network earlier request
  | .reading sent _ _ | .done _ sent => sent

/-- How far an exchange comes at a moment that reads the body of an answer. -/
def read (moment : Nat) (sent : List Request) (response : Response) (due : Nat) : Stage :=
  if moment < due then .reading sent response due else .done response.whole sent

/-- How far an exchange comes at a moment that waits for an answer. Redirects are followed right
away. -/
def await (t : Timeline) (first : Url) (moment : Nat) :
    Nat → List Request → Request → Nat → Stage
  | redirects, earlier, request, due =>
    let sent := earlier ++ [request]
    if moment < due then .waiting redirects earlier request due
    else
      match t.reception sent with
      | .unreachable => .done (.error (.unreachable first)) earlier
      | .timedOut => .done (.error (.timedOut first)) sent
      | .broken => .done (.error (.broken first)) sent
      | .answered response =>
        match response.target? request.url, redirects with
        | none, _ => read moment sent response (due + t.body sent)
        | some _, 0 => .done (.error (.tooManyRedirects request.url)) sent
        | some target, redirects + 1 =>
          if !isWeb target then .done (.error (.unsendable (some target))) sent
          else
            let next := request.redirected response.status target
            t.await first moment redirects sent next (due + t.head (sent ++ [next]))

/-- How far an exchange has come when it has been polled at a moment. -/
def poll (t : Timeline) (first : Request) (moment : Nat) : Stage → Stage
  | .idle =>
    if !isSendable first.url then .done (.error (.unsendable (some first.url))) []
    else t.await first.url moment maxRedirects [] first (moment + t.head [first])
  | .waiting redirects earlier request due => t.await first.url moment redirects earlier request due
  | .reading sent response due => read moment sent response due
  | .done result sent => .done result sent

end Timeline

/-- An exchange at some stage is polled from a moment on, until a last one, and what comes out. Its
    token, if it has one, is polled before it. -/
inductive Race (t : Timeline) (cancellable : Bool) (first : Request) :
    Nat → Stage → Nat → Except Failure (Nat × Bytes) × List Request → Prop
  | cancelled {moment : Nat} {stage : Stage}
    (hfired : (cancellable && t.fired moment) = true) :
    Race t cancellable first moment stage moment (.error .cancelled, t.sentBy stage)
  | ready {moment : Nat} {stage : Stage} {result : Except Failure (Nat × Bytes)}
    {sent : List Request} (hrunning : (cancellable && t.fired moment) = false)
    (hdone : t.poll first moment stage = .done result sent) :
    Race t cancellable first moment stage moment (result, sent)
  | pending {moment last : Nat} {stage : Stage}
    {outcome : Except Failure (Nat × Bytes) × List Request}
    (hrunning : (cancellable && t.fired moment) = false)
    (hpending : ∀ result sent, t.poll first moment stage ≠ .done result sent)
    (hlater : Race t cancellable first (moment + 1) (t.poll first moment stage) last outcome) :
    Race t cancellable first moment stage last outcome

variable {t : Timeline} {cancellable : Bool} {first : Request} {moment last due : Nat}
  {stage other : Stage} {outcome : Except Failure (Nat × Bytes) × List Request}

/-! ## With and without a token -/

theorem Race.le (h : Race t cancellable first moment stage last outcome) : moment ≤ last := by
  induction h with
  | cancelled _ => exact Nat.le_refl _
  | ready _ _ => exact Nat.le_refl _
  | pending _ _ _ ih => exact Nat.le_of_succ_le ih

/-- A timeline leaves no choice. -/
theorem Race.unique {last' : Nat} {outcome' : Except Failure (Nat × Bytes) × List Request}
    (h : Race t cancellable first moment stage last outcome)
    (h' : Race t cancellable first moment stage last' outcome') :
    last = last' ∧ outcome = outcome' := by
  induction h with
  | cancelled hfired =>
    cases h' with
    | cancelled _ => exact ⟨rfl, rfl⟩
    | ready hrunning _ => exact absurd (hfired.symm.trans hrunning) (by simp)
    | pending hrunning _ _ => exact absurd (hfired.symm.trans hrunning) (by simp)
  | ready hrunning hdone =>
    cases h' with
    | cancelled hfired => exact absurd (hfired.symm.trans hrunning) (by simp)
    | ready _ hdone' =>
      obtain ⟨rfl, rfl⟩ := Stage.done.inj (hdone.symm.trans hdone')
      exact ⟨rfl, rfl⟩
    | pending _ hpending _ => exact absurd hdone (hpending _ _)
  | pending hrunning hpending _ ih =>
    cases h' with
    | cancelled hfired => exact absurd (hfired.symm.trans hrunning) (by simp)
    | ready _ hdone => exact absurd hdone (hpending _ _)
    | pending _ _ hlater => exact ih hlater

/-- A token that has not fired when the exchange yields its result makes no difference. -/
theorem Race.of_not_fired (h : Race t false first moment stage last outcome)
    (hlast : t.fired last = false) : Race t true first moment stage last outcome := by
  have hrunning {n : Nat} (hn : n ≤ last) : (true && t.fired n) = false := by
    rw [Bool.true_and, ← Bool.not_eq_true]
    intro hfired
    exact absurd (hlast.symm.trans (Timeline.fired_mono hn hfired)) (by simp)
  induction h with
  | cancelled hfired => exact absurd hfired (by simp)
  | ready _ hdone => exact .ready (hrunning (Nat.le_refl _)) hdone
  | pending _ hpending hlater ih =>
    exact .pending (hrunning (Nat.le_of_succ_le hlater.le)) hpending (ih hlast hrunning)

/-- A token that has fired when the exchange would yield its result wins. -/
theorem Race.cancelled_of_fired (h : Race t false first moment stage last outcome)
    (hlast : t.fired last = true) :
    ∃ given sent, Race t true first moment stage given (.error .cancelled, sent) := by
  induction h with
  | cancelled hfired => exact absurd hfired (by simp)
  | ready _ _ => exact ⟨_, _, .cancelled hlast⟩
  | @pending moment last stage outcome _ hpending _ ih =>
    cases hfired : t.fired moment with
    | true => exact ⟨_, _, .cancelled hfired⟩
    | false =>
      obtain ⟨given, sent, hlater⟩ := ih hlast
      exact ⟨given, sent, .pending hfired hpending hlater⟩

/-! ## The outcome of a race -/

/-- Before a moment at which the token has not fired, time passes and nothing changes. -/
theorem Race.of_wait (hle : moment ≤ due) (hrunning : (cancellable && t.fired due) = false)
    (hopen : ∀ result sent, stage ≠ .done result sent)
    (hwait : ∀ n, moment ≤ n → n < due → t.poll first n stage = stage)
    (h : Race t cancellable first due stage last outcome) :
    Race t cancellable first moment stage last outcome := by
  induction hle using Nat.decreasingInduction with
  | self => exact h
  | of_succ n hn ih =>
    have hstill : t.poll first n stage = stage := hwait n (Nat.le_refl n) hn
    refine .pending ?_ ?_ ?_
    · rw [Bool.and_eq_false_imp] at hrunning ⊢
      intro hcancellable
      rw [← Bool.not_eq_true]
      intro hfired
      exact absurd (hrunning hcancellable)
        (by rw [Timeline.fired_mono (Nat.le_of_lt hn) hfired]; simp)
    · rw [hstill]
      exact hopen
    · rw [hstill]
      exact ih fun m hm => hwait m (Nat.le_of_succ_le hm)

/-- While nothing changes until a moment at which the token has fired, the exchange is dropped. -/
theorem Race.of_fired_while (hle : moment ≤ due) (hfired : (cancellable && t.fired due) = true)
    (hopen : ∀ result sent, stage ≠ .done result sent)
    (hwait : ∀ n, moment ≤ n → n < due → t.poll first n stage = stage) :
    ∃ last, Race t cancellable first moment stage last (.error .cancelled, t.sentBy stage) := by
  induction hle using Nat.decreasingInduction with
  | self => exact ⟨_, .cancelled hfired⟩
  | of_succ n hn ih =>
    cases hnow : cancellable && t.fired n with
    | true => exact ⟨n, .cancelled hnow⟩
    | false =>
      have hstill : t.poll first n stage = stage := hwait n (Nat.le_refl n) hn
      obtain ⟨last, hlater⟩ := ih fun m hm => hwait m (Nat.le_of_succ_le hm)
      refine ⟨last, .pending hnow ?_ ?_⟩
      · rw [hstill]
        exact hopen
      · rw [hstill]
        exact hlater

/-- Of the stage only what a poll makes of it counts, unless the token has fired. -/
theorem Race.of_poll_eq (hrunning : (cancellable && t.fired moment) = false)
    (hpoll : t.poll first moment stage = t.poll first moment other)
    (h : Race t cancellable first moment other last outcome) :
    Race t cancellable first moment stage last outcome := by
  cases h with
  | cancelled hfired => exact absurd (hfired.symm.trans hrunning) (by simp)
  | ready _ hdone => exact .ready hrunning (hpoll.trans hdone)
  | pending _ hpending hlater =>
    rw [← hpoll] at hpending hlater
    exact .pending hrunning hpending hlater

section Outcome

variable {redirects : Nat} {earlier sent : List Request} {request : Request} {response : Response}
  {target : Url} {answer : Except Failure Response}

/-- The stage of an exchange that has sent a request and waits for its answer. -/
def Timeline.waits (t : Timeline) (redirects : Nat) (earlier : List Request) (request : Request) :
    Stage :=
  .waiting redirects earlier request (t.arrival (earlier ++ [request]))

theorem Timeline.poll_waits_of_lt (hlt : moment < t.arrival (earlier ++ [request])) :
    t.poll first moment (t.waits redirects earlier request) =
      t.waits redirects earlier request := by
  rw [waits, poll, await]
  exact if_pos hlt

/-- Nothing is known to have fired before the answer to a request that is not cancelled. -/
theorem Receives.running_arrival {reception : Reception}
    (h : Receives t.network cancellable (earlier ++ [request]) reception) :
    (cancellable && t.fired (t.arrival (earlier ++ [request]))) = false := by
  have hrunning := h.running
  rw [Bool.and_eq_false_imp] at hrunning ⊢
  intro hcancellable
  rw [← Bool.not_eq_true]
  intro hfired
  have hsettled := Timeline.fired_mono (t.arrival_le_settled (earlier ++ [request])) hfired
  exact absurd (hsettled.symm.trans (hrunning hcancellable)) (by simp)

/-- Until the arrival of an answer, time passes and nothing changes. -/
theorem Race.of_arrival
    (hrunning : (cancellable && t.fired (t.arrival (earlier ++ [request]))) = false)
    (hle : moment ≤ t.arrival (earlier ++ [request]))
    (h : Race t cancellable first (t.arrival (earlier ++ [request]))
      (t.waits redirects earlier request) last outcome) :
    Race t cancellable first moment (t.waits redirects earlier request) last outcome :=
  .of_wait hle hrunning (by simp [Timeline.waits])
    (fun _ _ hlt => Timeline.poll_waits_of_lt hlt) h

/-- A redirect is followed at the moment at which it arrives. -/
theorem Race.of_follow
    (hreceives : Receives t.network cancellable (earlier ++ [request]) (.answered response))
    (htarget : response.target? request.url = some target) (hweb : isWeb target = true)
    (hle : moment ≤ t.arrival (earlier ++ [request]))
    (h : Race t cancellable first (t.arrival (earlier ++ [request])) (t.waits redirects
      (earlier ++ [request]) (request.redirected response.status target)) last outcome) :
    Race t cancellable first moment (t.waits (redirects + 1) earlier request) last outcome := by
  refine .of_arrival hreceives.running_arrival hle (.of_poll_eq hreceives.running_arrival ?_ h)
  have hreception : t.reception (earlier ++ [request]) = .answered response := hreceives.reception_eq
  simp only [Timeline.waits, Timeline.poll]
  rw [Timeline.await, t.arrival_concat (earlier ++ [request])]
  simp [hreception, htarget, hweb]

/-- An answer for good is read from the moment at which its head arrives. -/
theorem Race.of_final (hreception : t.reception (earlier ++ [request]) = .answered response)
    (htarget : response.target? request.url = none)
    (hrunning : (cancellable && t.fired (t.arrival (earlier ++ [request]))) = false)
    (hle : moment ≤ t.arrival (earlier ++ [request]))
    (h : Race t cancellable first (t.arrival (earlier ++ [request]))
      (.reading (earlier ++ [request]) response (t.settled (earlier ++ [request]))) last outcome) :
    Race t cancellable first moment (t.waits redirects earlier request) last outcome := by
  refine .of_arrival hrunning hle (.of_poll_eq hrunning ?_ h)
  rw [Timeline.settled, if_pos (Timeline.isFinal_iff.2 ⟨response, hreception, htarget⟩)]
  simp only [Timeline.waits, Timeline.poll]
  rw [Timeline.await]
  simp [hreception, htarget]

theorem Timeline.poll_reading_of_lt (hlt : moment < due) :
    t.poll first moment (.reading sent response due) = .reading sent response due := by
  rw [poll, read, if_pos hlt]

/-- A race that the token does not win is over when the body of an answer for good is there. -/
theorem Race.of_answered
    (hreceives : Receives t.network cancellable (earlier ++ [request]) (.answered response))
    (htarget : response.target? request.url = none)
    (hle : moment ≤ t.arrival (earlier ++ [request])) :
    Race t cancellable first moment (t.waits redirects earlier request)
      (t.settled (earlier ++ [request])) (response.whole, earlier ++ [request]) := by
  have hread : t.poll first (t.settled (earlier ++ [request]))
      (.reading (earlier ++ [request]) response (t.settled (earlier ++ [request]))) =
      .done response.whole (earlier ++ [request]) := by
    rw [Timeline.poll, Timeline.read, if_neg (Nat.lt_irrefl _)]
  exact .of_final hreceives.reception_eq htarget hreceives.running_arrival hle
    (.of_wait (t.arrival_le_settled (earlier ++ [request])) hreceives.running (by simp)
      (fun _ _ hlt => Timeline.poll_reading_of_lt hlt) (.ready hreceives.running hread))

/-- A failure, or a redirect that is not followed, ends the race at its arrival. -/
theorem Race.of_done {reception : Reception} {result : Except Failure (Nat × Bytes)}
    (hreceives : Receives t.network cancellable (earlier ++ [request]) reception)
    (hle : moment ≤ t.arrival (earlier ++ [request]))
    (hdone : t.poll first (t.arrival (earlier ++ [request])) (t.waits redirects earlier request) =
      .done result (received t.network earlier request)) :
    ∃ last, Race t cancellable first moment (t.waits redirects earlier request) last
      (result, received t.network earlier request) :=
  ⟨_, .of_arrival hreceives.running_arrival hle (.ready hreceives.running_arrival hdone)⟩

/-- A token that has fired by the time at which an answer is known wins the race, while the head of
    the answer is waited for or while its body is read. -/
theorem Race.of_cancelled
    (hcancelled : (cancellable && (t.network (earlier ++ [request])).cancelled) = true)
    (hle : moment ≤ t.arrival (earlier ++ [request])) :
    ∃ last, Race t cancellable first moment (t.waits redirects earlier request) last
      (.error .cancelled, received t.network earlier request) := by
  cases hearly : cancellable && t.fired (t.arrival (earlier ++ [request])) with
  | true =>
    exact Race.of_fired_while hle hearly (by simp [Timeline.waits])
      fun _ _ hlt => Timeline.poll_waits_of_lt hlt
  | false =>
    have hfinal : t.isFinal (earlier ++ [request]) = true := by
      rw [← Bool.not_eq_false]
      intro hnot
      rw [Timeline.network, Timeline.settled_of_not_final hnot] at hcancelled
      exact absurd (hcancelled.symm.trans hearly) (by simp)
    obtain ⟨response, hreception, htarget⟩ := Timeline.isFinal_iff.1 hfinal
    obtain ⟨last, hreading⟩ : ∃ last, Race t cancellable first (t.arrival (earlier ++ [request]))
        (.reading (earlier ++ [request]) response (t.settled (earlier ++ [request]))) last
        (.error .cancelled, earlier ++ [request]) :=
      Race.of_fired_while (t.arrival_le_settled (earlier ++ [request])) hcancelled (by simp)
        fun _ _ hlt => Timeline.poll_reading_of_lt hlt
    have hsent : received t.network earlier request = earlier ++ [request] :=
      if_neg (by simp [Timeline.network, hreception])
    rw [hsent]
    exact ⟨last, .of_final hreception htarget hearly hle hreading⟩

/-- From a request that it has sent, the race goes on to how the exchange ends there. -/
theorem Race.of_ends (hends : Ends t.network cancellable first redirects earlier request answer)
    (hle : moment ≤ t.arrival (earlier ++ [request])) :
    ∃ last, Race t cancellable first moment (t.waits redirects earlier request) last
      (answer >>= Response.whole, received t.network earlier request) := by
  cases hends with
  | cancelled hcancelled => exact Race.of_cancelled hcancelled hle
  | answered hreceives htarget =>
    rw [received_of_receives hreceives]
    exact ⟨_, .of_answered hreceives htarget hle⟩
  | unreachable hreceives | timedOut hreceives | broken hreceives =>
    refine Race.of_done hreceives hle ?_
    have hreception := hreceives.reception_eq
    dsimp only [Timeline.network] at hreception
    rw [Timeline.waits, Timeline.poll, Timeline.await]
    simp [hreception, received, Timeline.network]
  | tooManyRedirects hreceives htarget hnone =>
    refine Race.of_done hreceives hle ?_
    have hreception := hreceives.reception_eq
    dsimp only [Timeline.network] at hreception
    subst hnone
    rw [Timeline.waits, Timeline.poll, Timeline.await]
    simp [hreception, htarget, received, Timeline.network]
  | notWeb hreceives htarget hsome hweb =>
    refine Race.of_done hreceives hle ?_
    have hreception := hreceives.reception_eq
    dsimp only [Timeline.network] at hreception
    obtain ⟨n, rfl⟩ := Nat.exists_eq_succ_of_ne_zero hsome
    rw [Timeline.waits, Timeline.poll, Timeline.await]
    simp [hreception, htarget, hweb, received, Timeline.network]

/-- What the race makes of a request that the exchange reaches, it makes of the exchange. -/
theorem Reaches.race (h : Reaches t.network cancellable first redirects earlier request)
    (hstart : (cancellable && t.fired 0) = false) :
    ∃ moment, moment ≤ t.arrival (earlier ++ [request]) ∧ ∀ last outcome,
      Race t cancellable first moment (t.waits redirects earlier request) last outcome →
        Race t cancellable first 0 .idle last outcome := by
  induction h with
  | start hsendable =>
    refine ⟨0, Nat.zero_le _, fun last outcome hrace => .of_poll_eq hstart ?_ hrace⟩
    rw [Timeline.poll, Timeline.waits, Timeline.poll, t.arrival_concat []]
    simp [hsendable, Timeline.arrival]
  | @follow redirects earlier request response target _ hreceives htarget hweb ih =>
    obtain ⟨moment, hle, hbefore⟩ := ih
    refine ⟨t.arrival (earlier ++ [request]), ?_, fun last outcome hrace => ?_⟩
    · rw [t.arrival_concat (earlier ++ [request])]
      exact Nat.le_add_right ..
    · exact hbefore last outcome (.of_follow hreceives htarget hweb hle hrace)

/-- A race that the token has not won from the start comes out as the exchange over the network of
    its timeline. -/
theorem race_exchange (t : Timeline) (cancellable : Bool) (first : Request)
    (hstart : (cancellable && t.fired 0) = false) :
    ∃ last, Race t cancellable first 0 .idle last (exchange t.network cancellable first) := by
  rcases exchange_cases t.network cancellable first with
    hsendable | ⟨redirects, earlier, request, answer, hreaches, hends⟩
  · rw [exchange_of_not_sendable hsendable]
    exact ⟨0, .ready hstart (by rw [Timeline.poll, hsendable]; rfl)⟩
  · obtain ⟨moment, hle, hbefore⟩ := hreaches.race hstart
    obtain ⟨last, hrace⟩ := Race.of_ends hends hle
    rw [exchange_of_ends hreaches hends]
    exact ⟨last, hbefore last _ hrace⟩

end Outcome

end AccessDecision.Http
