import AccessDecision.Credential.Verifier
import AccessDecision.Proofs.Credential.Codec
import AccessDecision.Proofs.Credential.Expiry
import AccessDecision.Proofs.Text.Base64url
import AccessDecision.Proofs.Text.Pieces

set_option autoImplicit false

/-! # Which tokens are accepted

`Verifier.Genuine` states what a token must be, whatever the time: three segments in their canonical
form, of which the first names the verifier's algorithm, the second holds claims, and the third is
the whole signature of the first two under the verifier's secret. A genuine token is accepted until
its claims expire and nothing else ever is: `Verifier.verify_exact`. -/

namespace AccessDecision

open Outcome Text

/-! ## Segments -/

theorem Segments.of?_eq_some_iff {token : String} {s : Segments} :
    Segments.of? token = some s ↔
      token.toList = s.header ++ '.' :: (s.payload ++ '.' :: s.signature) ∧
        '.' ∉ s.header ∧ '.' ∉ s.payload ∧ '.' ∉ s.signature := by
  have hfree : ∀ cs : List Char, (∀ c ∈ cs, decide (c = '.') = false) ↔ '.' ∉ cs := by
    intro cs
    simp only [decide_eq_false_iff_not]
    exact ⟨fun h hdot => h _ hdot rfl, fun h c hc hdot => h (hdot ▸ hc)⟩
  constructor
  · intro h
    unfold Segments.of? at h
    split at h
    · rename_i header payload signature hpieces
      simp only [Option.some.injEq] at h
      subst h
      -- three pieces: a separator behind each of the first two, and none behind the third
      obtain ⟨hheader, hmore⟩ := of_pieces_eq_cons hpieces
      obtain ⟨d, rest, hd, htoken, hrest⟩ := hmore.resolve_left (by simp)
      obtain ⟨hpayload, hmore⟩ := of_pieces_eq_cons hrest
      obtain ⟨e, last, he, hrest, hlast⟩ := hmore.resolve_left (by simp)
      obtain ⟨hsignature, hend⟩ := of_pieces_eq_cons hlast
      have hlast : last = signature := by
        rcases hend with ⟨-, heq⟩ | ⟨_, after, -, -, hnil⟩
        · exact heq
        · exact absurd hnil (pieces_ne_nil _ after)
      rw [hrest, of_decide_eq_true hd, of_decide_eq_true he, hlast] at htoken
      exact ⟨htoken, (hfree _).1 hheader, (hfree _).1 hpayload, (hfree _).1 hsignature⟩
    · exact absurd h (by simp)
  · rintro ⟨htoken, hheader, hpayload, hsignature⟩
    unfold Segments.of?
    rw [htoken, pieces_append_cons ((hfree _).2 hheader) (by decide),
      pieces_append_cons ((hfree _).2 hpayload) (by decide),
      pieces_eq_singleton ((hfree _).2 hsignature)]

namespace Verifier

theorem content_eq_ok_iff {α : Type} {read : Bytes → Except Json.Error α} {segment : List Char}
    {value : α} :
    content read segment = .ok value ↔
      ∃ bytes, segment = Base64url.encodeChars bytes ∧ read bytes = .ok value := by
  unfold content
  constructor
  · intro h
    split at h
    · exact absurd h (by simp)
    · rename_i bytes hdecode
      exact ⟨bytes, Base64url.decode_encodeChars_eq_ok_iff.1 hdecode,
        mapError_eq_ok_iff.1 h⟩
  · rintro ⟨bytes, hsegment, hread⟩
    rw [Base64url.decode_encodeChars_eq_ok_iff.2 hsegment]
    exact mapError_eq_ok_iff.2 hread

/-! ## Genuine tokens -/

/-- Segments that a verifier takes for genuine: the canonical base64url text of a header that names
    its algorithm, the one of claims, and the one of the whole signature of both under its
    secret. -/
structure GenuineSegments (v : Verifier) (header payload signature : String) (claims : Claims) :
    Prop where
  header_eq : ∃ bytes head, header = Base64url.encode bytes ∧ Header.read bytes = .ok head ∧
    head.algorithm = v.algorithm.name
  payload_eq : ∃ bytes, payload = Base64url.encode bytes ∧ Claims.read bytes = .ok claims
  signature_eq : signature = Base64url.encode (Digest.Hmac.mac v.algorithm.hash v.identity.key
    (Utf8.encode (header ++ "." ++ payload)))

/-- A token with exactly two dots, whose segments are genuine. -/
def Genuine (v : Verifier) (token : String) (claims : Claims) : Prop :=
  token.toList.count '.' = 2 ∧ ∃ header payload signature,
    token = header ++ "." ++ payload ++ "." ++ signature ∧
      v.GenuineSegments header payload signature claims

variable {v : Verifier} {token header payload signature : String} {claims : Claims} {now : Instant}

theorem GenuineSegments.dot_not_mem (h : v.GenuineSegments header payload signature claims) :
    '.' ∉ header.toList ∧ '.' ∉ payload.toList ∧ '.' ∉ signature.toList := by
  obtain ⟨_, _, rfl, -⟩ := h.header_eq
  obtain ⟨_, rfl, -⟩ := h.payload_eq
  rw [h.signature_eq]
  exact ⟨Base64url.dot_not_mem_encode _, Base64url.dot_not_mem_encode _,
    Base64url.dot_not_mem_encode _⟩

theorem toList_join (header payload signature : String) :
    (header ++ "." ++ payload ++ "." ++ signature).toList =
      header.toList ++ '.' :: (payload.toList ++ '.' :: signature.toList) := by
  have hdot : ".".toList = ['.'] := rfl
  simp [String.toList_append, hdot]

theorem GenuineSegments.genuine (h : v.GenuineSegments header payload signature claims) :
    v.Genuine (header ++ "." ++ payload ++ "." ++ signature) claims := by
  obtain ⟨hheader, hpayload, hsignature⟩ := h.dot_not_mem
  refine ⟨?_, header, payload, signature, rfl, h⟩
  rw [toList_join, List.count_append, List.count_cons_self, List.count_append,
    List.count_cons_self, List.count_eq_zero.2 hheader, List.count_eq_zero.2 hpayload,
    List.count_eq_zero.2 hsignature]

/-- Three segments without dots, joined. -/
theorem of?_join (hheader : '.' ∉ header.toList) (hpayload : '.' ∉ payload.toList)
    (hsignature : '.' ∉ signature.toList) :
    Segments.of? (header ++ "." ++ payload ++ "." ++ signature) =
      some ⟨header.toList, payload.toList, signature.toList⟩ :=
  Segments.of?_eq_some_iff.2 ⟨toList_join .., hheader, hpayload, hsignature⟩

theorem signed_eq (header payload signature : String) :
    Segments.signed ⟨header.toList, payload.toList, signature.toList⟩ =
      Utf8.encode (header ++ "." ++ payload) := by
  have hdot : ".".toList = ['.'] := rfl
  rw [Segments.signed, Utf8.encode]
  simp [String.toList_append, hdot]

/-- A genuine token gives its claims until they expire. -/
theorem verify_of_genuine (h : v.Genuine token claims) (now : Instant) :
    v.verify token now =
      if claims.expiredAt now then .error (.expired claims.expiresAt) else .ok claims := by
  obtain ⟨-, header, payload, signature, rfl, hgenuine⟩ := h
  obtain ⟨hheaderDot, hpayloadDot, hsignatureDot⟩ := hgenuine.dot_not_mem
  obtain ⟨headerBytes, head, hheader, hhead, hname⟩ := hgenuine.header_eq
  obtain ⟨payloadBytes, hpayload, hclaims⟩ := hgenuine.payload_eq
  have hheader : content Header.read header.toList = .ok head :=
    content_eq_ok_iff.2 ⟨headerBytes, by rw [hheader, Base64url.toList_encode], hhead⟩
  have hpayload : content Claims.read payload.toList = .ok claims :=
    content_eq_ok_iff.2 ⟨payloadBytes, by rw [hpayload, Base64url.toList_encode], hclaims⟩
  have hsignature : Base64url.decode (Utf8.encodeChars signature.toList) =
      .ok (v.algorithm.sign v.identity.key (Utf8.encode (header ++ "." ++ payload))) := by
    rw [Base64url.decode_encodeChars_eq_ok_iff, hgenuine.signature_eq, Base64url.toList_encode,
      Algorithm.sign]
  unfold verify
  rw [of?_join hheaderDot hpayloadDot hsignatureDot]
  simp only [signed_eq]
  rw [hheader, ok_bind, if_neg (by simp [hname]), hsignature]
  simp only [Algorithm.verify, decide_true, Bool.not_true, Bool.false_eq_true, if_false]
  rw [hpayload, ok_bind]

/-- Whatever is accepted is genuine and has not expired. -/
theorem genuine_of_verify_eq_ok (h : v.verify token now = .ok claims) :
    v.Genuine token claims ∧ claims.expiredAt now = false := by
  -- each stage either ends in an error or leaves a fact about its segment
  unfold verify at h
  split at h
  · exact absurd h (by simp)
  rename_i s hsegments
  obtain ⟨htoken, -⟩ := Segments.of?_eq_some_iff.1 hsegments
  obtain ⟨head, hhead, h⟩ := bind_eq_ok_iff.1 h
  obtain ⟨headerBytes, hheader, hread⟩ := content_eq_ok_iff.1 hhead
  split at h
  · exact absurd h (by simp)
  rename_i hname
  split at h
  · exact absurd h (by simp)
  rename_i signature hdecode
  have hsignature := Base64url.decode_encodeChars_eq_ok_iff.1 hdecode
  split at h
  · exact absurd h (by simp)
  rename_i hverify
  have hmac : v.algorithm.sign v.identity.key s.signed = signature := by
    simpa [Algorithm.verify] using hverify
  obtain ⟨payloadClaims, hcontent, h⟩ := bind_eq_ok_iff.1 h
  obtain ⟨payloadBytes, hpayload, hclaims⟩ := content_eq_ok_iff.1 hcontent
  split at h
  · exact absurd h (by simp)
  rename_i hfresh
  simp only [Except.ok.injEq] at h
  subst h
  -- the segments as strings
  have hsigned := signed_eq (String.ofList s.header) (String.ofList s.payload)
    (String.ofList s.signature)
  have hjoin := toList_join (String.ofList s.header) (String.ofList s.payload)
    (String.ofList s.signature)
  simp only [String.toList_ofList] at hsigned hjoin
  rw [← hjoin, String.toList_inj] at htoken
  have hgenuine : v.GenuineSegments (String.ofList s.header) (String.ofList s.payload)
      (String.ofList s.signature) payloadClaims := by
    refine ⟨⟨headerBytes, head, ?_, hread, by simpa using hname⟩, ⟨payloadBytes, ?_, hclaims⟩, ?_⟩
    · rw [hheader, Base64url.encode]
    · rw [hpayload, Base64url.encode]
    · rw [← hsigned, hsignature, ← hmac]
      rfl
  rw [htoken]
  exact ⟨hgenuine.genuine, by simpa using hfresh⟩

/-- The segments of a genuine token are the ones between its dots, however it is put together. -/
theorem Genuine.segments
    (h : v.Genuine (header ++ "." ++ payload ++ "." ++ signature) claims) :
    v.GenuineSegments header payload signature claims := by
  obtain ⟨hcount, header', payload', signature', htoken, hgenuine⟩ := h
  obtain ⟨hheader', hpayload', hsignature'⟩ := hgenuine.dot_not_mem
  rw [toList_join] at hcount
  simp only [List.count_append, List.count_cons_self] at hcount
  -- the two dots between the segments are all there are
  have hheader : '.' ∉ header.toList := List.count_eq_zero.1 (by omega)
  have hpayload : '.' ∉ payload.toList := List.count_eq_zero.1 (by omega)
  have hsignature : '.' ∉ signature.toList := List.count_eq_zero.1 (by omega)
  have hsegments := of?_join hheader hpayload hsignature
  rw [htoken, of?_join hheader' hpayload' hsignature'] at hsegments
  simp only [Option.some.injEq, Segments.mk.injEq, String.toList_inj] at hsegments
  obtain ⟨rfl, rfl, rfl⟩ := hsegments
  exact hgenuine

/-! ## The exact condition -/

/-- A token is accepted with some claims exactly if it is genuine with these claims and they have
    not expired. So neither a token whose header names another algorithm nor one whose signature is
    any other byte string than the whole one is ever accepted. -/
theorem verify_exact (v : Verifier) (now : Instant) :
    (∀ token claims, v.verify token now = .ok claims ↔
      v.Genuine token claims ∧ now.seconds < claims.expiresAt.toInt) ∧
    (∀ headerBytes head payload signature claims, Header.read headerBytes = .ok head →
      head.algorithm ≠ v.algorithm.name →
      v.verify (Base64url.encode headerBytes ++ "." ++ payload ++ "." ++ signature) now ≠
        .ok claims) ∧
    (∀ header payload signatureBytes claims,
      signatureBytes ≠ Digest.Hmac.mac v.algorithm.hash v.identity.key
        (Utf8.encode (header ++ "." ++ payload)) →
      v.verify (header ++ "." ++ payload ++ "." ++ Base64url.encode signatureBytes) now ≠
        .ok claims) := by
  have hexact : ∀ token claims, v.verify token now = .ok claims ↔
      v.Genuine token claims ∧ now.seconds < claims.expiresAt.toInt := by
    intro token claims
    rw [← Claims.expiredAt_eq_false_iff]
    constructor
    · exact genuine_of_verify_eq_ok
    · rintro ⟨hgenuine, hfresh⟩
      rw [verify_of_genuine hgenuine, hfresh]
      rfl
  refine ⟨hexact, ?_, ?_⟩
  · intro headerBytes head payload signature claims hread hname h
    obtain ⟨bytes, named, hheader, hnamed, hexpected⟩ := ((hexact _ _).1 h).1.segments.header_eq
    rw [← Base64url.encode_injective hheader, hread] at hnamed
    obtain rfl := Except.ok.inj hnamed
    exact hname hexpected
  · intro header payload signatureBytes claims hmac h
    exact hmac (Base64url.encode_injective ((hexact _ _).1 h).1.segments.signature_eq)

/-- A header that names HS384 before a verifier for HS256, and a signature cut down to nothing. -/
theorem verify_exact_other_algorithm_and_empty_signature :
    Header.read (Utf8.encode (Header.ofAlgorithm .hs384).text) =
      .ok (Header.ofAlgorithm .hs384) ∧
    (Header.ofAlgorithm .hs384).algorithm ≠ Algorithm.hs256.name ∧
    (∀ payload signature claims,
      verify ⟨⟨"svc", "k"⟩, .hs256⟩ (Base64url.encode (Utf8.encode
        (Header.ofAlgorithm .hs384).text) ++ "." ++ payload ++ "." ++ signature) .epoch ≠
        .ok claims) ∧
    (∀ header payload, [] ≠ Digest.Hmac.mac Algorithm.hs256.hash (Utf8.encode "k")
      (Utf8.encode (header ++ "." ++ payload))) ∧
    (∀ header payload claims,
      verify ⟨⟨"svc", "k"⟩, .hs256⟩ (header ++ "." ++ payload ++ "." ++ Base64url.encode [])
        .epoch ≠ .ok claims) := by
  have hread := Header.read_text (Header.ofAlgorithm .hs384)
  have hname : (Header.ofAlgorithm .hs384).algorithm ≠ Algorithm.hs256.name := by decide
  have hempty : ∀ header payload, [] ≠ Digest.Hmac.mac Algorithm.hs256.hash (Utf8.encode "k")
      (Utf8.encode (header ++ "." ++ payload)) := by
    intro header payload h
    have hlength := congrArg List.length h
    rw [Digest.Hmac.length_mac] at hlength
    exact absurd hlength (by decide)
  obtain ⟨-, hother, hwhole⟩ := verify_exact ⟨⟨"svc", "k"⟩, .hs256⟩ .epoch
  refine ⟨hread, hname, ?_, hempty, ?_⟩
  · intro payload signature claims
    exact hother _ _ payload signature claims hread hname
  · intro header payload claims
    exact hwhole header payload [] claims (hempty header payload)

end Verifier

end AccessDecision
