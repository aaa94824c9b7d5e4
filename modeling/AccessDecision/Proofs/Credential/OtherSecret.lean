import AccessDecision.Proofs.Credential.Secret
import AccessDecision.Proofs.Credential.Signature
import AccessDecision.Proofs.Digest.Key

set_option autoImplicit false

/-! # Credentials before a verifier with another secret

What a verifier makes of a credential that was signed with another key depends on one question: do
the two keys sign this credential alike (`Verifier.verify_sign_with`)? Secrets that differ do so in
two cases, and the credential is refused in all others. Either the algorithm makes the same key of
both (`Algorithm.SameKey`), which for short secrets means that they differ in NULs at the end only,
or its digest collides (`Algorithm.CollidesOn`). The second case cannot be ruled out either, as
there are more secrets than signatures (`Algorithm.exists_collidesOn`). -/

namespace AccessDecision

open Text

/-! ## Secrets as keys -/

theorem Text.Utf8.encode_eq_append_zeros_iff {s t : String} {n : Nat} :
    Utf8.encode t = Utf8.encode s ++ List.replicate n 0 ↔
      t.toList = s.toList ++ List.replicate n '\x00' := by
  have hzeros : Utf8.encodeChars (List.replicate n '\x00') = List.replicate n 0 := by
    rw [Utf8.encodeChars_of_ascii fun c hc => by rw [List.eq_of_mem_replicate hc]; decide,
      List.map_replicate]
    rfl
  rw [Utf8.encode, Utf8.encode, ← hzeros, ← Utf8.encodeChars_append]
  exact ⟨Utf8.encodeChars_injective, congrArg Utf8.encodeChars⟩

namespace Algorithm

variable {a : Algorithm} {secret other text : String}

/-- Secrets of which an algorithm makes the same key. -/
def SameKey (a : Algorithm) (secret other : String) : Prop :=
  Digest.Hmac.SameKey a.hash (Utf8.encode secret) (Utf8.encode other)

/-- Secrets for which the digest collides when a text is signed. -/
def CollidesOn (a : Algorithm) (text secret other : String) : Prop :=
  Digest.Collision a.hash (Digest.Hmac.outer a.hash (Utf8.encode secret) (Utf8.encode text))
    (Digest.Hmac.outer a.hash (Utf8.encode other) (Utf8.encode text))

theorem size_le_blockSize (a : Algorithm) : a.hash.size ≤ a.hash.blockSize := by
  cases a <;> decide

theorem sign_eq_iff : a.sign (Utf8.encode secret) (Utf8.encode text) =
    a.sign (Utf8.encode other) (Utf8.encode text) ↔
      a.SameKey secret other ∨ a.CollidesOn text secret other :=
  Digest.Hmac.mac_eq_iff a.size_le_blockSize

theorem SameKey.sign_eq (h : a.SameKey secret other) (message : Bytes) :
    a.sign (Utf8.encode secret) message = a.sign (Utf8.encode other) message :=
  Digest.Hmac.SameKey.mac_eq h a.size_le_blockSize message

/-- Secrets that fit into a block are the same key if one is the other followed by NULs. -/
theorem sameKey_iff (hsecret : (Utf8.encode secret).length ≤ a.hash.blockSize)
    (hother : (Utf8.encode other).length ≤ a.hash.blockSize) :
    a.SameKey secret other ↔ ∃ n, other.toList = secret.toList ++ List.replicate n '\x00' ∨
      secret.toList = other.toList ++ List.replicate n '\x00' := by
  unfold SameKey Digest.Hmac.SameKey
  rw [Digest.Hmac.shortened_of_le hsecret, Digest.Hmac.shortened_of_le hother]
  simp only [Utf8.encode_eq_append_zeros_iff]

/-- More secrets fit into a block than there are signatures of a text. -/
theorem exists_collidesOn (a : Algorithm) (text : String) : ∃ secret other, secret ≠ "" ∧
    other ≠ "" ∧ ¬a.SameKey secret other ∧ a.CollidesOn text secret other := by
  obtain ⟨x, y, hx, hy, hne, hsign⟩ := Digest.exists_same_result
    (fun bytes => a.sign (Utf8.encode (Base64url.encode bytes)) (Utf8.encode text))
    (fun _ => Digest.Hmac.length_mac ..)
  have hlength {bytes : Bytes} (h : bytes.length = a.hash.size + 1) :
      (Utf8.encode (Base64url.encode bytes)).length = (4 * (a.hash.size + 1) + 2) / 3 := by
    rw [Utf8.encode, Base64url.toList_encode, ← h]
    exact Base64url.length_written bytes
  have hnonempty {bytes : Bytes} (h : bytes.length = a.hash.size + 1) :
      Base64url.encode bytes ≠ "" := by
    intro hempty
    have hzero := hlength h
    rw [hempty] at hzero
    have hnil : (Utf8.encode "").length = 0 := rfl
    omega
  have hdifferent : ¬a.SameKey (Base64url.encode x) (Base64url.encode y) := by
    intro hsame
    have hfits : (4 * (a.hash.size + 1) + 2) / 3 ≤ a.hash.blockSize := by
      cases a <;> decide
    have hbytes := Digest.Hmac.SameKey.eq_of_length_eq hsame a.size_le_blockSize
      (by rw [hlength hx]; exact hfits) (by rw [hlength hx, hlength hy])
    exact hne (Base64url.encode_injective (String.toList_inj.1 (Utf8.encodeChars_injective hbytes)))
  exact ⟨_, _, hnonempty hx, hnonempty hy, hdifferent,
    (sign_eq_iff.1 hsign).resolve_left hdifferent⟩

end Algorithm

/-! ## Another key -/

namespace Verifier

variable {a : Algorithm} {owner owner' secret other : String}

theorem refusal_encode (bytes : Bytes) : refusal (Base64url.encode bytes) = .invalidSignature := by
  rw [refusal, if_neg (Base64url.dot_not_mem_encode bytes), Base64url.decode_encode]

/-- A credential that was signed with some key is accepted until it expires if the verifier's own
    key signs it alike, and is always refused for its signature if not. -/
theorem verify_sign_with (v : Verifier) (claims : Claims) (key : Bytes) (now : Instant) :
    v.verify (Credential.sign claims v.algorithm key).token now =
      if v.algorithm.sign key (Utf8.encode (Credential.signingInput claims v.algorithm)) =
          v.algorithm.sign v.identity.key
            (Utf8.encode (Credential.signingInput claims v.algorithm)) then
        if claims.expiredAt now then .error (.expired claims.expiresAt) else .ok claims
      else .error .invalidSignature := by
  split
  next halike =>
    have htoken : (Credential.sign claims v.algorithm key).token =
        (Credential.sign claims v.algorithm v.identity.key).token := by
      simp only [Credential.sign, halike]
    rw [htoken, verify_of_genuine (Credential.genuine_sign claims v)]
  next hdiffer =>
    have hne := fun h => hdiffer (Base64url.encode_injective h)
    have hrefused := (Credential.genuine_sign claims v).segments.verify_of_ne hne now
    rw [refusal_encode] at hrefused
    exact hrefused

/-- Verifiers with the same key give the same answers, whoever they belong to. -/
theorem verify_of_sameKey (h : a.SameKey secret other) (token : String) (now : Instant) :
    verify ⟨⟨owner, secret⟩, a⟩ token now = verify ⟨⟨owner', other⟩, a⟩ token now := by
  have hsign (message : Bytes) : a.sign (Identity.key ⟨owner, secret⟩) message =
      a.sign (Identity.key ⟨owner', other⟩) message := h.sign_eq message
  unfold verify Algorithm.verify
  simp only [hsign]

end Verifier

namespace Issuer

/-- **A wrong secret is refused.** Before a verifier with another secret a credential that was
    issued is refused for its signature at every instant, unless the algorithm makes the same key of
    both secrets, or its digest collides on this credential: then it is accepted until it expires.
    With the same key all tokens fare alike. Secrets that fit into a block of the digest are the
    same key only if they differ in NULs at the end alone, and some other secrets do collide. -/
theorem verify_other_secret (i : Issuer) (hclient : isBlank i.identity.clientId = false)
    (now : Instant) (e : Entropy) :
    let input := Credential.signingInput (.issue i.identity.clientId now i.name e.current)
      i.algorithm
    (∀ secret, secret ≠ "" → ∃ credential,
      ((i.withSecret secret).issue now e).1 = .ok credential ∧ ∀ owner other,
        let v : Verifier := ⟨⟨owner, other⟩, i.algorithm⟩
        (¬i.algorithm.SameKey secret other → ¬i.algorithm.CollidesOn input secret other →
          ∀ later, v.verify credential.token later = .error .invalidSignature) ∧
        (i.algorithm.SameKey secret other ∨ i.algorithm.CollidesOn input secret other →
          ∀ later, v.verify credential.token later =
            if later.seconds < now.seconds + Claims.lifetime then .ok credential.claims
            else .error (.expired credential.claims.expiresAt)) ∧
        (i.algorithm.SameKey secret other → ∀ token later,
          v.verify token later = (i.withSecret secret).verifier.verify token later)) ∧
    (∀ secret other, (Utf8.encode secret).length ≤ i.algorithm.hash.blockSize →
      (Utf8.encode other).length ≤ i.algorithm.hash.blockSize →
      (i.algorithm.SameKey secret other ↔ ∃ n,
        other.toList = secret.toList ++ List.replicate n '\x00' ∨
          secret.toList = other.toList ++ List.replicate n '\x00')) ∧
    ∃ secret other, secret ≠ "" ∧ other ≠ "" ∧ ¬i.algorithm.SameKey secret other ∧
      i.algorithm.CollidesOn input secret other := by
  intro input
  refine ⟨?_, fun _ _ => Algorithm.sameKey_iff, i.algorithm.exists_collidesOn input⟩
  intro secret hsecret
  have hvalid : (i.withSecret secret).identity.validate = .ok () :=
    Identity.validate_eq_ok_iff.2 ⟨hclient, hsecret⟩
  refine ⟨(i.withSecret secret).sign now e.current, ?_, ?_⟩
  · rw [issue_of_validate_eq_ok hvalid]
  · intro owner other v
    have hverify (later : Instant) := v.verify_sign_with
      (.issue i.identity.clientId now i.name e.current) (Utf8.encode secret) later
    have halike : v.algorithm.sign (Utf8.encode secret) (Utf8.encode input) =
        v.algorithm.sign v.identity.key (Utf8.encode input) ↔
          i.algorithm.SameKey secret other ∨ i.algorithm.CollidesOn input secret other :=
      Algorithm.sign_eq_iff
    refine ⟨?_, ?_, ?_⟩
    · intro hkey hcollision later
      have hdiffer := fun h => (halike.1 h).elim hkey hcollision
      exact (hverify later).trans (if_neg hdiffer)
    · intro hconfused later
      -- the issuer's own verifier takes the token for the same
      have hgenuine := Verifier.verify_of_genuine (Credential.genuine_sign
        (.issue i.identity.clientId now i.name e.current) (i.withSecret secret).verifier) later
      have hown := (i.withSecret secret).verify_sign now later e.current
      exact ((hverify later).trans (if_pos (halike.2 hconfused))).trans (hgenuine.symm.trans hown)
    · intro hkey token later
      exact (Verifier.verify_of_sameKey hkey token later).symm

/-- A credential under the secret `k` before verifiers with `j` and with `k` and a NUL. -/
theorem verify_other_secret_letter_and_nul :
    let i : Issuer := ⟨⟨"s", ""⟩, .hs256, none⟩
    isBlank i.identity.clientId = false ∧ ∃ credential,
      ((i.withSecret "k").issue .epoch (.countingFrom 0)).1 = .ok credential ∧
        (∀ later, Verifier.verify ⟨⟨"s", "j"⟩, .hs256⟩ credential.token later =
          .error .invalidSignature) ∧
        Verifier.verify ⟨⟨"s", "k\x00"⟩, .hs256⟩ credential.token .epoch =
          .ok credential.claims := by
  intro i
  have hclient : isBlank i.identity.clientId = false := by decide +kernel
  obtain ⟨hissued, hkeys, -⟩ := verify_other_secret i hclient .epoch (.countingFrom 0)
  obtain ⟨credential, hissue, hverify⟩ := hissued "k" (by decide)
  have hdifferent : ¬i.algorithm.SameKey "k" "j" := by
    rw [hkeys "k" "j" (by decide) (by decide)]
    rintro ⟨n, h | h⟩
    · exact absurd (List.cons.inj h).1 (by decide)
    · exact absurd (List.cons.inj h).1 (by decide)
  have hpadded : i.algorithm.SameKey "k" "k\x00" :=
    (hkeys "k" "k\x00" (by decide) (by decide)).2 ⟨1, Or.inl rfl⟩
  -- the two signatures are computed
  have hsign : Algorithm.hs256.sign (Utf8.encode "k") (Utf8.encode
      (Credential.signingInput (.issue "s" .epoch none 0) .hs256)) ≠
      Algorithm.hs256.sign (Utf8.encode "j") (Utf8.encode
        (Credential.signingInput (.issue "s" .epoch none 0) .hs256)) := by decide +kernel
  refine ⟨hclient, credential, hissue, ?_, ?_⟩
  · exact (hverify "s" "j").1 hdifferent fun hcollision => hsign hcollision.digest_eq
  · rw [(hverify "s" "k\x00").2.1 (Or.inl hpadded) .epoch]
    exact if_pos (by decide)

/-- A verifier with another secret than the issuer's accepts a credential: the two differ in a NUL
    at the end. -/
theorem accepted_under_padded_secret :
    let i : Issuer := ⟨⟨"svc", "k"⟩, .hs256, none⟩
    "k" ≠ "k\x00" ∧ ∃ credential, (i.issue .epoch (.countingFrom 0)).1 = .ok credential ∧
      Verifier.verify ⟨⟨"svc", "k\x00"⟩, .hs256⟩ credential.token .epoch =
        .ok credential.claims := by
  intro i
  have hvalid : i.identity.validate = .ok () :=
    Identity.validate_eq_ok_iff.2 ⟨by decide +kernel, by decide⟩
  have hpadded : i.algorithm.SameKey "k" "k\x00" :=
    (Algorithm.sameKey_iff (by decide) (by decide)).2 ⟨1, Or.inl rfl⟩
  refine ⟨by decide, i.sign .epoch (Entropy.countingFrom 0).current, ?_, ?_⟩
  · rw [issue_of_validate_eq_ok hvalid]
  · rw [← Verifier.verify_of_sameKey hpadded]
    exact (i.verify_sign .epoch .epoch _).trans (if_pos (by decide))

end Issuer

end AccessDecision
