import AccessDecision.Credential.Issuer
import AccessDecision.Proofs.Credential.Verification

set_option autoImplicit false

/-! # What is issued is accepted for a day

The token of a credential is genuine for whoever shares the identity and the algorithm, whatever its
claims say (`Credential.genuine_sign`). So an issuer's own verifier gives the claims of a new
credential back until their expiry, a day after the issue, and reports the expiry from then on. -/

namespace AccessDecision

open Text

theorem Identity.validate_eq_ok_iff {i : Identity} :
    i.validate = .ok () ↔ isBlank i.clientId = false ∧ i.clientSecret ≠ "" := by
  unfold validate
  cases isBlank i.clientId with
  | true => simp
  | false =>
    by_cases hsecret : i.clientSecret = ""
    · simp [hsecret]
    · simp [hsecret]

/-- The token that is signed for some claims is genuine and carries them. -/
theorem Credential.genuine_sign (claims : Claims) (v : Verifier) :
    v.Genuine (Credential.sign claims v.algorithm v.identity.key).token claims := by
  refine Verifier.GenuineSegments.genuine ⟨?_, ?_, rfl⟩
  · exact ⟨_, _, rfl, Header.read_text (Header.ofAlgorithm v.algorithm), rfl⟩
  · exact ⟨_, rfl, claims.read_text⟩

/-- The segments of a token that was signed. -/
theorem Credential.of?_token_sign (claims : Claims) (a : Algorithm) (key : Bytes) :
    Segments.of? (sign claims a key).token = some ⟨(segment (Header.ofAlgorithm a).text).toList,
      (segment claims.text).toList,
      Base64url.encodeChars (a.sign key (Utf8.encode (signingInput claims a)))⟩ := by
  have hjoin := Verifier.of?_join
    (Base64url.dot_not_mem_encode (Utf8.encode (Header.ofAlgorithm a).text))
    (Base64url.dot_not_mem_encode (Utf8.encode claims.text))
    (Base64url.dot_not_mem_encode (a.sign key (Utf8.encode (signingInput claims a))))
  rw [Base64url.toList_encode (a.sign key _)] at hjoin
  exact hjoin

namespace Issuer

variable {i : Issuer}

theorem issue_of_validate_eq_ok (h : i.identity.validate = .ok ()) (now : Instant) (e : Entropy) :
    i.issue now e = (.ok (i.sign now e.current), e.advance) := by
  rw [issue, h]

theorem issue_of_validate_eq_error {error : CredentialError}
    (h : i.identity.validate = .error error) (now : Instant) (e : Entropy) :
    i.issue now e = (.error error, e) := by
  rw [issue, h]

theorem toInt_expiresAt_sign (now : Instant) (nonce : Nonce) :
    (i.sign now nonce).claims.expiresAt.toInt = now.seconds + Claims.lifetime :=
  Claims.toInt_expiresAt_issue ..

/-- The issuer's verifier gives the claims of what it signed until they expire. -/
theorem verify_sign (now later : Instant) (nonce : Nonce) :
    i.verifier.verify (i.sign now nonce).token later =
      if later.seconds < now.seconds + Claims.lifetime then .ok (i.sign now nonce).claims
      else .error (.expired (i.sign now nonce).claims.expiresAt) := by
  have hgenuine : i.verifier.Genuine (i.sign now nonce).token (i.sign now nonce).claims :=
    Credential.genuine_sign _ i.verifier
  rw [Verifier.verify_of_genuine hgenuine]
  by_cases hfresh : later.seconds < now.seconds + Claims.lifetime
  · rw [if_pos hfresh, Claims.expiredAt_eq_false_iff.2 (by rw [toInt_expiresAt_sign]; exact hfresh)]
    rfl
  · have hexpired : (i.sign now nonce).claims.expiredAt later = true := by
      rw [← Bool.not_eq_false, Claims.expiredAt_eq_false_iff, toInt_expiresAt_sign]
      exact hfresh
    rw [if_neg hfresh, if_pos hexpired]

/-- Until it expires, a signed credential is accepted as what the issuer stands for. -/
theorem sign_accepted {now later : Instant} {nonce : Nonce}
    (h : later.seconds < now.seconds + Claims.lifetime) :
    i.verifier.verify (i.sign now nonce).token later = .ok (i.sign now nonce).claims ∧
      (i.sign now nonce).claims.clientId = i.identity.clientId ∧
      (i.sign now nonce).claims.issuer = i.name ∧
      (i.sign now nonce).claims.expiresAt.toInt =
        (i.sign now nonce).claims.issuedAt.toInt + Claims.lifetime ∧
      (i.sign now nonce).claims.expiredAt later = false := by
  have hissued : (i.sign now nonce).claims.issuedAt.toInt = now.seconds :=
    Claims.toInt_issuedAt_issue ..
  refine ⟨?_, rfl, rfl, ?_, ?_⟩
  · rw [verify_sign, if_pos h]
  · rw [toInt_expiresAt_sign, hissued]
  · rw [Claims.expiredAt_eq_false_iff, toInt_expiresAt_sign]
    exact h

/-- **Issue, then verify.** An identity that can sign always gets a credential, for any algorithm
    and any issuer name, and at every instant, earlier ones included, the issuer's verifier gives
    back exactly its claims before their expiry, 86400 seconds after the issue, and the expiry from
    then on. -/
theorem verify_issued (i : Issuer) (hclient : isBlank i.identity.clientId = false)
    (hsecret : i.identity.clientSecret ≠ "") (now later : Instant) (e : Entropy) :
    ∃ credential, (i.issue now e).1 = .ok credential ∧
      credential.claims = .issue i.identity.clientId now i.name e.current ∧
      credential.claims.expiresAt.toInt = now.seconds + 86400 ∧
      i.verifier.verify credential.token later =
        if later.seconds < now.seconds + 86400 then .ok credential.claims
        else .error (.expired credential.claims.expiresAt) := by
  have hvalid := Identity.validate_eq_ok_iff.2 ⟨hclient, hsecret⟩
  refine ⟨i.sign now e.current, ?_, rfl, Claims.toInt_expiresAt_issue .., verify_sign ..⟩
  rw [issue_of_validate_eq_ok hvalid]

/-- An id with a quote, a dot and a line break, a secret beyond the basic plane and an empty issuer
    name, long before the issue and at the expiry. -/
theorem verify_issued_long_before_and_at_expiry :
    let i : Issuer := ⟨⟨"ü\"ñ.\n", "🔑"⟩, .hs512, some ""⟩
    isBlank i.identity.clientId = false ∧ i.identity.clientSecret ≠ "" ∧
      (∃ credential, (i.issue .epoch (.countingFrom 7)).1 = .ok credential ∧
        i.verifier.verify credential.token ⟨-1000000, 5, by decide, by decide, by decide⟩ =
          .ok credential.claims) ∧
      ∃ credential, (i.issue .epoch (.countingFrom 7)).1 = .ok credential ∧
        i.verifier.verify credential.token ⟨86400, 0, by decide, by decide, by decide⟩ =
          .error (.expired credential.claims.expiresAt) := by
  intro i
  have hclient : isBlank i.identity.clientId = false := by decide +kernel
  have hsecret : i.identity.clientSecret ≠ "" := by decide
  obtain ⟨credential, hissue, -, -, hbefore⟩ := verify_issued i hclient hsecret .epoch
    ⟨-1000000, 5, by decide, by decide, by decide⟩ (.countingFrom 7)
  obtain ⟨same, hsame, -, -, hexpired⟩ := verify_issued i hclient hsecret .epoch
    ⟨86400, 0, by decide, by decide, by decide⟩ (.countingFrom 7)
  rw [if_pos (by decide)] at hbefore
  rw [if_neg (by decide)] at hexpired
  exact ⟨hclient, hsecret, ⟨credential, hissue, hbefore⟩, same, hsame, hexpired⟩

end Issuer

end AccessDecision
