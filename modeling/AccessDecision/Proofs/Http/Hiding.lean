import AccessDecision.Proofs.Http.Exchange
import AccessDecision.Proofs.Http.Header
import Mathlib.Data.List.Forall2

set_option autoImplicit false

/-! # Requests that look alike

Two exchanges that start with requests that are alike, over networks that do the same with requests
that are alike, go the same way, whatever "alike" is (`Likeness`): one follows the other step by step
(`Reaches.follows`) and ends as it does (`Ends.follows`), so they return the same and send what is
alike (`exchange_alike`). Requests that are the same but for some headers are alike for a network
that does not look at these (`exchange_congr`). Nothing that an exchange sends has an authorization
that its first request has not (`values_exchange`). -/

namespace AccessDecision.Http

open AccessDecision.Outcome

/-! ## Going the same way -/

/-- A way for requests to be alike that tells where they go, and that redirects keep. -/
structure Likeness (alike : Request → Request → Prop) : Prop where
  url_eq : ∀ {r r' : Request}, alike r r' → r.url = r'.url
  redirected : ∀ {r r' : Request}, alike r r' → ∀ (status : Nat) (target : Url),
    alike (r.redirected status target) (r'.redirected status target)

/-- Two networks do the same with requests that are alike. -/
def AgreeOn (alike : Request → Request → Prop) (network network' : Network) : Prop :=
  ∀ sent sent', List.Forall₂ alike sent sent' → network sent = network' sent'

section Follows

variable {alike : Request → Request → Prop} {network network' : Network} {cancellable : Bool}
  {first first' request request' : Request} {redirects : Nat} {earlier earlier' : List Request}

theorem Receives.follows {sent sent' : List Request} {reception : Reception}
    (hagree : AgreeOn alike network network') (h : Receives network cancellable sent reception)
    (hsent : List.Forall₂ alike sent sent') : Receives network' cancellable sent' reception := by
  have hhop := hagree sent sent' hsent
  exact ⟨hhop ▸ h.reception_eq, hhop ▸ h.running⟩

theorem forall₂_concat (hearlier : List.Forall₂ alike earlier earlier')
    (hrequest : alike request request') :
    List.Forall₂ alike (earlier ++ [request]) (earlier' ++ [request']) :=
  List.rel_append hearlier (.cons hrequest .nil)

variable (hlike : Likeness alike) (hagree : AgreeOn alike network network')

include hlike hagree

theorem Reaches.follows (h : Reaches network cancellable first redirects earlier request)
    (hfirst : alike first first') :
    ∃ earlier' request', Reaches network' cancellable first' redirects earlier' request' ∧
      List.Forall₂ alike earlier earlier' ∧ alike request request' := by
  induction h with
  | start hsendable => exact ⟨[], first', .start (hlike.url_eq hfirst ▸ hsendable), .nil, hfirst⟩
  | @follow redirects earlier request response target _ hreceives htarget hweb ih =>
    obtain ⟨earlier', request', hreaches, hearlier, hrequest⟩ := ih
    have hsent := forall₂_concat hearlier hrequest
    exact ⟨earlier' ++ [request'], request'.redirected response.status target,
      .follow hreaches (hreceives.follows hagree hsent) (hlike.url_eq hrequest ▸ htarget) hweb,
      hsent, hlike.redirected hrequest response.status target⟩

theorem Ends.follows {answer : Except Failure Response}
    (h : Ends network cancellable first redirects earlier request answer)
    (hfirst : alike first first') (hearlier : List.Forall₂ alike earlier earlier')
    (hrequest : alike request request') :
    Ends network' cancellable first' redirects earlier' request' answer := by
  have hsent := forall₂_concat hearlier hrequest
  have hhop := hagree _ _ hsent
  have hstart := hlike.url_eq hfirst
  have hurl := hlike.url_eq hrequest
  cases h with
  | cancelled hcancelled => exact .cancelled (hhop ▸ hcancelled)
  | unreachable hreceives => exact hstart ▸ .unreachable (hreceives.follows hagree hsent)
  | timedOut hreceives => exact hstart ▸ .timedOut (hreceives.follows hagree hsent)
  | broken hreceives => exact hstart ▸ .broken (hreceives.follows hagree hsent)
  | answered hreceives htarget =>
    exact .answered (hreceives.follows hagree hsent) (hurl ▸ htarget)
  | tooManyRedirects hreceives htarget hnone =>
    have htarget := hurl ▸ htarget
    exact hurl ▸ .tooManyRedirects (hreceives.follows hagree hsent) htarget hnone
  | notWeb hreceives htarget hsome hweb =>
    exact .notWeb (hreceives.follows hagree hsent) (hurl ▸ htarget) hsome hweb

/-- The same comes back, and what is sent is alike. -/
theorem exchange_alike (cancellable : Bool) (hfirst : alike first first') :
    (exchange network cancellable first).1 = (exchange network' cancellable first').1 ∧
      List.Forall₂ alike (exchange network cancellable first).2
        (exchange network' cancellable first').2 := by
  rcases exchange_cases network cancellable first with
    hsendable | ⟨redirects, earlier, last, answer, hreaches, hends⟩
  · have hurl := hlike.url_eq hfirst
    rw [exchange_of_not_sendable hsendable, exchange_of_not_sendable (hurl ▸ hsendable), hurl]
    exact ⟨rfl, .nil⟩
  · obtain ⟨earlier', last', hreaches', hearlier, hlast⟩ := hreaches.follows hlike hagree hfirst
    have hends' := hends.follows hlike hagree hfirst hearlier hlast
    have hsent := forall₂_concat hearlier hlast
    rw [exchange_of_ends hreaches hends, exchange_of_ends hreaches' hends']
    refine ⟨rfl, ?_⟩
    dsimp only [received]
    rw [hagree _ _ hsent]
    split
    · exact hearlier
    · exact hsent

end Follows

/-! ## Headers that are alike -/

/-- Requests that are the same but for their headers, which are alike. -/
structure Request.SameBut (alike : Headers → Headers → Prop) (r r' : Request) : Prop where
  method_eq : r.method = r'.method
  url_eq : r.url = r'.url
  headers : alike r.headers r'.headers
  body_eq : r.body = r'.body

/-- A way for headers to be alike that what is done to them on a redirect keeps. -/
structure Headers.Likeness (alike : Headers → Headers → Prop) : Prop where
  without : ∀ {hs hs' : Headers}, alike hs hs' → ∀ names, alike (hs.without names) (hs'.without names)
  set : ∀ {hs hs' : Headers}, alike hs hs' → ∀ header, alike (hs.set header) (hs'.set header)

/-- A redirect treats alike what looks alike. -/
theorem Headers.Likeness.sameBut {alike : Headers → Headers → Prop}
    (hlike : Headers.Likeness alike) : Http.Likeness (Request.SameBut alike) where
  url_eq h := h.url_eq
  redirected := by
    intro r r' h status target
    have hseen : r.seenUrl = r'.seenUrl := by rw [Request.seenUrl, Request.seenUrl, h.url_eq]
    refine ⟨?_, rfl, ?_, ?_⟩
    · simp only [Request.redirected, h.method_eq]
    · unfold Request.redirected
      rw [← hseen, ← h.url_eq]
      dsimp only
      -- whatever is done to the headers is done to both
      have hkept : alike
          (if decide (status = 307) || decide (status = 308) then r.headers
            else r.headers.without aboutBody)
          (if decide (status = 307) || decide (status = 308) then r'.headers
            else r'.headers.without aboutBody) := by
        split
        · exact h.headers
        · exact hlike.without h.headers aboutBody
      cases referer? r.seenUrl target with
      | none =>
        split
        · exact hkept
        · exact hlike.without hkept confidential
      | some referer =>
        split
        · exact hlike.set hkept referer
        · exact hlike.without (hlike.set hkept referer) confidential
    · simp only [Request.redirected, h.body_eq]

/-! ## Headers that nobody looks at -/

/-- The request as it is seen by who does not look at some headers. -/
def Request.without (names : List String) (r : Request) : Request :=
  { r with headers := r.headers.without names }

/-- Two networks do the same with requests that are the same but for some headers. -/
def Agree (names : List String) (network network' : Network) : Prop :=
  ∀ sent sent', sent.map (Request.without names) = sent'.map (Request.without names) →
    network sent = network' sent'

variable {names : List String} {network network' : Network} {cancellable : Bool}
  {first first' request request' : Request}

theorem Request.without_eq_iff :
    request.without names = request'.without names ↔
      SameBut (fun hs hs' => hs.without names = hs'.without names) request request' := by
  simp only [without, Request.mk.injEq]
  exact ⟨fun ⟨hmethod, hurl, hheaders, hbody⟩ => ⟨hmethod, hurl, hheaders, hbody⟩,
    fun ⟨hmethod, hurl, hheaders, hbody⟩ => ⟨hmethod, hurl, hheaders, hbody⟩⟩

theorem Request.map_without_eq_iff {sent sent' : List Request} :
    sent.map (without names) = sent'.map (without names) ↔
      List.Forall₂ (fun r r' => r.without names = r'.without names) sent sent' := by
  rw [← List.forall₂_eq_eq_eq, List.forall₂_map_left_iff, List.forall₂_map_right_iff]

theorem Headers.likeness_without (names : List String) :
    Likeness fun hs hs' => hs.without names = hs'.without names where
  without h _ := without_congr h
  set h _ := set_congr h

/-- The same comes back, and the same is sent but for the headers that nobody looks at. -/
theorem exchange_congr (hagree : Agree names network network') (cancellable : Bool)
    (hfirst : first.without names = first'.without names) :
    (exchange network cancellable first).1 = (exchange network' cancellable first').1 ∧
      (exchange network cancellable first).2.map (Request.without names) =
        (exchange network' cancellable first').2.map (Request.without names) := by
  simp only [Request.map_without_eq_iff, Request.without_eq_iff] at hfirst ⊢
  refine exchange_alike (Headers.likeness_without names).sameBut ?_ cancellable hfirst
  intro sent sent' hsent
  refine hagree sent sent' (Request.map_without_eq_iff.2 ?_)
  simpa only [Request.without_eq_iff] using hsent

/-! ## What is never added -/

theorem name_of_referer? {source target : Url} {header : Header}
    (h : referer? source target = some header) : header.name = "referer" := by
  unfold referer? at h
  split at h
  · exact absurd h (by simp)
  · cases hof : Header.of "referer" source.text with
    | error fault =>
      rw [hof] at h
      exact absurd h (by simp [Except.toOption])
    | ok other =>
      rw [hof] at h
      obtain rfl : other = header := Option.some.inj h
      exact (Header.of_eq_ok_iff.1 hof).1

/-- A redirect keeps the authorization of a request or drops it. -/
theorem values_redirected (r : Request) (status : Nat) (target : Url) :
    (r.redirected status target).headers.values "authorization" =
        r.headers.values "authorization" ∨
      (r.redirected status target).headers.values "authorization" = [] := by
  unfold Request.redirected
  dsimp only
  have hkept : Headers.values
      (if decide (status = 307) || decide (status = 308) then r.headers
        else r.headers.without aboutBody) "authorization" = r.headers.values "authorization" := by
    split
    · rfl
    · exact Headers.values_without_of_not_mem (by decide)
  have hdropped (headers : Headers) :
      (headers.without confidential).values "authorization" = [] :=
    Headers.values_without_of_mem (by decide)
  cases hreferer : referer? r.seenUrl target with
  | none =>
    split
    · exact Or.inl hkept
    · exact Or.inr (hdropped _)
  | some referer =>
    have hname := name_of_referer? hreferer
    split
    · exact Or.inl ((Headers.values_set_of_ne (by rw [hname]; decide)).trans hkept)
    · exact Or.inr (hdropped _)

/-- Every request of an exchange has the authorization of the first one or none. -/
theorem values_exchange {r : Request} (hr : r ∈ (exchange network cancellable first).2) :
    r.headers.values "authorization" = first.headers.values "authorization" ∨
      r.headers.values "authorization" = [] := by
  let P (r : Request) : Prop :=
    r.headers.values "authorization" = first.headers.values "authorization" ∨
      r.headers.values "authorization" = []
  have hkept (r : Request) (status : Nat) (target : Url) (h : P r) :
      P (r.redirected status target) := by
    rcases values_redirected r status target with hsame | hdropped
    · dsimp only [P]
      rw [hsame]
      exact h
    · exact Or.inr hdropped
  have hfirst : P first := Or.inl rfl
  exact exchange_forall hfirst hkept r hr

end AccessDecision.Http
