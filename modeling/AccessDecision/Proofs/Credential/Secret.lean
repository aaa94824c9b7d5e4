import AccessDecision.Proofs.Credential.Source
import Mathlib.Data.List.Forall2

set_option autoImplicit false

/-! # Credentials under two secrets

Two issuers that differ in their secrets only sign the same claims at the same instants with the same
nonces. What they hand out is alike: the same claims, and tokens that are the same up to the
signature, which has the same length (`Issuer.sign_alike`). A cache in front of them decides the same
for both, since it looks at the claims only; what it holds in the two cases are twins
(`Cache.State.Twins`), and stays so (`Source.issue_twins`). -/

namespace AccessDecision

open Text

/-! ## Alike -/

/-- Tokens with the same header, the same payload, and signatures of the same length. -/
def Credential.TokensAlike (token token' : String) : Prop :=
  ∃ s s', Segments.of? token = some s ∧ Segments.of? token' = some s' ∧
    s.header = s'.header ∧ s.payload = s'.payload ∧ s.signature.length = s'.signature.length

/-- Credentials that are the same but for the signature. -/
structure Credential.Alike (c c' : Credential) : Prop where
  claims_eq : c.claims = c'.claims
  tokens : TokensAlike c.token c'.token

theorem Credential.Alike.diagnostic_eq {c c' : Credential} (h : c.Alike c') :
    c.diagnostic = c'.diagnostic := by
  unfold diagnostic
  rw [h.claims_eq]

theorem Credential.Alike.issuedEvent_eq {c c' : Credential} (h : c.Alike c') :
    c.issuedEvent = c'.issuedEvent := by
  unfold issuedEvent
  rw [h.claims_eq]

/-- The key has no say in what is signed and in how long the signature is. -/
theorem Credential.sign_alike (claims : Claims) (algorithm : Algorithm) (key key' : Bytes) :
    (Credential.sign claims algorithm key).Alike (Credential.sign claims algorithm key') := by
  refine ⟨rfl, _, _, of?_token_sign claims algorithm key, of?_token_sign claims algorithm key', rfl,
    rfl, ?_⟩
  dsimp only
  rw [Base64url.length_encodeChars, Base64url.length_encodeChars, Algorithm.sign, Algorithm.sign,
    Digest.Hmac.length_mac, Digest.Hmac.length_mac]

/-! ## Two secrets -/

/-- The same issuer with another secret. -/
def Issuer.withSecret (i : Issuer) (secret : String) : Issuer :=
  { i with identity := { i.identity with clientSecret := secret } }

namespace Issuer

variable {i : Issuer} {secret secret' : String}

theorem sign_alike (minted : Instant) (nonce : Nonce) :
    ((i.withSecret secret).sign minted nonce).Alike ((i.withSecret secret').sign minted nonce) :=
  Credential.sign_alike ..

/-- An identity is valid or not whatever its secret is, if only it has one. -/
theorem validate_withSecret (h : secret ≠ "") (h' : secret' ≠ "") :
    (i.withSecret secret).identity.validate = (i.withSecret secret').identity.validate := by
  simp [withSecret, Identity.validate, h, h']

end Issuer

/-- The same cache with another secret. -/
def Cache.withSecret (c : Cache) (secret : String) : Cache :=
  { c with issuer := c.issuer.withSecret secret }

/-- States that differ in the secret under which the credential that is held was signed. -/
structure Cache.State.Twins (i i' : Issuer) (s s' : Cache.State) : Prop where
  entropy_eq : s.entropy = s'.entropy
  held : (s.held = none ∧ s'.held = none) ∨ ∃ minted nonce,
    s.held = some (i.sign minted nonce) ∧ s'.held = some (i'.sign minted nonce)

namespace Cache

variable {c : Cache} {secret secret' : String} {s s' : State} {now : Instant}

theorem State.Twins.new (i i' : Issuer) (entropy : Entropy) :
    State.Twins i i' ⟨none, entropy⟩ ⟨none, entropy⟩ :=
  ⟨rfl, Or.inl ⟨rfl, rfl⟩⟩

theorem State.Twins.invalidate {i i' : Issuer} (h : State.Twins i i' s s') :
    State.Twins i i' (invalidate s) (invalidate s') :=
  ⟨h.entropy_eq, Or.inl ⟨rfl, rfl⟩⟩

/-- Of a cache and what it holds the same is shown. -/
theorem diagnostic_twins
    (h : State.Twins (c.withSecret secret).issuer (c.withSecret secret').issuer s s')
    (lock : String → String) :
    (c.withSecret secret).diagnostic lock s = (c.withSecret secret').diagnostic lock s' := by
  have hheld : s.held.map Credential.diagnostic = s'.held.map Credential.diagnostic := by
    rcases h.held with ⟨hheld, hheld'⟩ | ⟨minted, nonce, hheld, hheld'⟩
    · rw [hheld, hheld']
    · rw [hheld, hheld']
      exact congrArg some (Issuer.sign_alike minted nonce).diagnostic_eq
  have hissuer : (c.withSecret secret).issuer.diagnostic =
      (c.withSecret secret').issuer.diagnostic := rfl
  unfold diagnostic
  rw [hheld, hissuer]
  rfl

/-- What is held is handed out again under both secrets or under none. -/
theorem reusable?_twins
    (h : State.Twins (c.withSecret secret).issuer (c.withSecret secret').issuer s s') :
    ((c.withSecret secret).reusable? now s = none ∧
        (c.withSecret secret').reusable? now s' = none) ∨ ∃ minted nonce,
      (c.withSecret secret).reusable? now s =
          some ((c.withSecret secret).issuer.sign minted nonce) ∧
        (c.withSecret secret').reusable? now s' =
          some ((c.withSecret secret').issuer.sign minted nonce) := by
  rcases h.held with ⟨hheld, hheld'⟩ | ⟨minted, nonce, hheld, hheld'⟩
  · exact Or.inl ⟨by rw [reusable?, hheld]; rfl, by rw [reusable?, hheld']; rfl⟩
  · have hfresh : (c.withSecret secret').fresh now
        ((c.withSecret secret').issuer.sign minted nonce) =
        (c.withSecret secret).fresh now ((c.withSecret secret).issuer.sign minted nonce) := rfl
    rw [reusable?, reusable?, hheld, hheld', Option.filter_some, Option.filter_some, hfresh]
    split
    · exact Or.inr ⟨minted, nonce, rfl, rfl⟩
    · exact Or.inl ⟨rfl, rfl⟩

end Cache

/-! ## One credential -/

/-- Where credentials come from: through the cache, or from its issuer. -/
def Cache.source (c : Cache) (cached : Bool) : Source := if cached then .cache c else .issuer c.issuer

/-- Under two secrets a source fails with the same error, or hands out twins and logs the same. -/
theorem Source.issue_twins {c : Cache} {secret secret' : String} {s s' : Cache.State}
    (hsecret : secret ≠ "") (hsecret' : secret' ≠ "")
    (h : Cache.State.Twins (c.withSecret secret).issuer (c.withSecret secret').issuer s s')
    (cached : Bool) (now : Instant) :
    (∃ error, ((c.withSecret secret).source cached).issue now s = (.error error, [], s) ∧
        ((c.withSecret secret').source cached).issue now s' = (.error error, [], s')) ∨
      ∃ minted nonce log after after',
        ((c.withSecret secret).source cached).issue now s =
          (.ok ((c.withSecret secret).issuer.sign minted nonce), log, after) ∧
        ((c.withSecret secret').source cached).issue now s' =
          (.ok ((c.withSecret secret').issuer.sign minted nonce), log, after') ∧
        Cache.State.Twins (c.withSecret secret).issuer (c.withSecret secret').issuer after
          after' := by
  have hsame : (c.withSecret secret).issuer.identity.validate =
      (c.withSecret secret').issuer.identity.validate := Issuer.validate_withSecret hsecret hsecret'
  -- the log shows claims, and these are the same
  have hlog (nonce : Nonce) : ((c.withSecret secret').issuer.sign now nonce).issuedEvent =
      ((c.withSecret secret).issuer.sign now nonce).issuedEvent :=
    (Issuer.sign_alike now nonce).issuedEvent_eq
  cases cached with
  | false =>
    cases hvalid : (c.withSecret secret).issuer.identity.validate with
    | error error =>
      exact Or.inl ⟨error, issue_issuer_of_invalid hvalid now s,
        issue_issuer_of_invalid (hsame.symm.trans hvalid) now s'⟩
    | ok =>
      have hissue := issue_issuer_of_valid (hsame.symm.trans hvalid) now s'
      rw [← h.entropy_eq, hlog] at hissue
      exact Or.inr ⟨now, _, _, _, _, issue_issuer_of_valid hvalid now s, hissue, rfl, h.held⟩
  | true =>
    rcases Cache.reusable?_twins h with ⟨hnone, hnone'⟩ | ⟨minted, nonce, hsome, hsome'⟩
    · cases hvalid : (c.withSecret secret).issuer.identity.validate with
      | error error =>
        exact Or.inl ⟨error, Cache.issue_of_invalid hvalid hnone,
          Cache.issue_of_invalid (hsame.symm.trans hvalid) hnone'⟩
      | ok =>
        have hissue := Cache.issue_of_valid (hsame.symm.trans hvalid) hnone'
        rw [← h.entropy_eq, hlog] at hissue
        exact Or.inr ⟨now, _, _, _, _, Cache.issue_of_valid hvalid hnone, hissue, rfl,
          Or.inr ⟨now, _, rfl, rfl⟩⟩
    · exact Or.inr ⟨minted, nonce, _, _, _, Cache.issue_of_reusable hsome,
        Cache.issue_of_reusable hsome', h⟩

end AccessDecision
