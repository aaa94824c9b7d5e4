import AccessDecision.Http.Authorization
import AccessDecision.Proofs.Credential.Secret
import AccessDecision.Proofs.Http.Hiding

set_option autoImplicit false

/-! # Requests with another signature

Who looks at the headers of a request but not at the signature of the token sees no difference
between requests that are alike. Redirects keep it so (`Request.likeness_alike`), since what they do
to a header is up to its name. -/

namespace AccessDecision.Http

/-- Headers that are the same, or carry tokens that are the same but for the signature. -/
inductive Header.Alike : Header → Header → Prop
  | same (h : Header) : Alike h h
  | token {h h' : Header} {token token' : String} (hname : h.name = "authorization")
    (hname' : h'.name = "authorization") (hvalue : h.value = bearer token)
    (hvalue' : h'.value = bearer token') (htokens : Credential.TokensAlike token token') :
    Alike h h'

theorem Header.Alike.name_eq {h h' : Header} (halike : h.Alike h') : h.name = h'.name := by
  cases halike with
  | same => rfl
  | token hname hname' _ _ _ => rw [hname, hname']

/-- Requests that are the same but for the signatures of their tokens. -/
abbrev Request.Alike (r r' : Request) : Prop := r.SameBut (List.Forall₂ Header.Alike) r'

namespace Headers

variable {hs hs' : Headers}

theorem alike_refl (hs : Headers) : List.Forall₂ Header.Alike hs hs :=
  List.forall₂_same.2 fun h _ => .same h

theorem filter_alike (p : String → Bool) (h : List.Forall₂ Header.Alike hs hs') :
    List.Forall₂ Header.Alike (hs.filter fun header => p header.name)
      (hs'.filter fun header => p header.name) :=
  List.rel_filter (fun _ _ halike => iff_of_eq (congrArg (fun name => p name = true) halike.name_eq)) h

theorem without_alike (names : List String) (h : List.Forall₂ Header.Alike hs hs') :
    List.Forall₂ Header.Alike (hs.without names) (hs'.without names) :=
  filter_alike (fun name => !names.contains name) h

theorem set_alike (header : Header) (h : List.Forall₂ Header.Alike hs hs') :
    List.Forall₂ Header.Alike (hs.set header) (hs'.set header) :=
  List.rel_append (without_alike [header.name] h) (alike_refl [header])

theorem has_alike (h : List.Forall₂ Header.Alike hs hs') (name : String) :
    hs.has name = hs'.has name := by
  induction h with
  | nil => rfl
  | cons halike _ ih =>
    rw [has] at ih ⊢
    rw [List.any_cons, ih, halike.name_eq]
    rfl

theorem complete_alike (others : Headers) (h : List.Forall₂ Header.Alike hs hs') :
    List.Forall₂ Header.Alike (hs.complete others) (hs'.complete others) := by
  simp only [complete, has_alike h]
  exact List.rel_append h (alike_refl _)

end Headers

theorem Request.likeness_alike : Likeness Request.Alike :=
  Headers.Likeness.sameBut ⟨fun h names => Headers.without_alike names h,
    fun h header => Headers.set_alike header h⟩

end AccessDecision.Http
