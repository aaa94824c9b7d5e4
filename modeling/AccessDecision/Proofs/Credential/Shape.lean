import AccessDecision.Proofs.Credential.Issuance

set_option autoImplicit false

/-! # What a token looks like

Whatever goes into a credential, its token is plain: three segments over the alphabet of base64url,
none of them empty, so that it can be cut at its dots again (`Credential.shaped_sign`). The client,
the issuer's name and the secret are inside the segments and leave no other trace on the text. -/

namespace AccessDecision

open Outcome Text

/-- How many bytes a signature has. -/
def Algorithm.signatureLength : Algorithm → Nat
  | .hs256 => 32
  | .hs384 => 48
  | .hs512 => 64

theorem Algorithm.length_sign (a : Algorithm) (key message : Bytes) :
    (a.sign key message).length = a.signatureLength := by
  rw [sign, Digest.Hmac.length_mac]
  cases a <;> rfl

/-- The text of the header of an algorithm. -/
theorem Header.text_ofAlgorithm (a : Algorithm) :
    (ofAlgorithm a).text = "\x7b\"alg\":\"" ++ a.name ++ "\",\"typ\":\"JWT\"\x7d" := by
  cases a <;> decide +kernel

/-- A text with segments is cut into them, and nothing else, at its dots. -/
theorem Segments.pieces_of_of? {token : String} {s : Segments} (h : of? token = some s) :
    pieces (· = '.') token.toList = [s.header, s.payload, s.signature] := by
  unfold of? at h
  split at h
  · rename_i header payload signature hpieces
    obtain rfl := Option.some.inj h
    exact hpieces
  · exact absurd h (by simp)

namespace Credential

/-- A segment of a token: symbols of base64url, one or more. -/
structure IsSegment (segment : String) : Prop where
  ne_empty : segment ≠ ""
  symbols : ∀ c ∈ segment.toList, Base64url.IsSymbol c

theorem isSegment_encode {bytes : Bytes} (h : bytes ≠ []) : IsSegment (Base64url.encode bytes) :=
  ⟨Base64url.encode_ne_empty h, fun _ => Base64url.isSymbol_of_mem_encode⟩

/-- What the token of a credential is made of, under an algorithm and a key. -/
structure Shaped (c : Credential) (a : Algorithm) (key : Bytes)
    (header payload signature : String) : Prop where
  token_eq : c.token = header ++ "." ++ payload ++ "." ++ signature
  /-- The token has no other dots than these two. -/
  pieces_eq : pieces (· = '.') c.token.toList =
    [header.toList, payload.toList, signature.toList]
  header_segment : IsSegment header
  payload_segment : IsSegment payload
  signature_segment : IsSegment signature
  /-- The first segment holds the name of the algorithm and the type of the token. -/
  header_eq : ∃ bytes, Base64url.decode (Utf8.encode header) = .ok bytes ∧
    bytes = Utf8.encode ("\x7b\"alg\":\"" ++ a.name ++ "\",\"typ\":\"JWT\"\x7d") ∧
    Json.read bytes = .ok (.object [("alg", .string a.name), ("typ", .string "JWT")])
  /-- The second segment holds the claims, with the name of the issuer if there is one. -/
  payload_eq : ∃ bytes members, Base64url.decode (Utf8.encode payload) = .ok bytes ∧
    bytes = Utf8.encode c.claims.text ∧ Json.read bytes = .ok (.object members) ∧
    Json.lookup "iss" members = c.claims.issuer.map .string
  /-- The third segment holds the whole signature of the first two. -/
  signature_eq : ∃ bytes, Base64url.decode (Utf8.encode signature) = .ok bytes ∧
    bytes = Digest.Hmac.mac a.hash key (Utf8.encode (header ++ "." ++ payload)) ∧
    bytes.length = a.signatureLength

theorem encode_text_ne_nil (members : List (String × Json)) :
    Utf8.encode (Json.object members).text ≠ [] := by
  rw [Json.encode_object_text]
  exact List.cons_ne_nil _ _

theorem shaped_sign (claims : Claims) (a : Algorithm) (key : Bytes) :
    (sign claims a key).Shaped a key (segment (Header.ofAlgorithm a).text) (segment claims.text)
      (Base64url.encode (a.sign key (Utf8.encode (signingInput claims a)))) where
  token_eq := rfl
  pieces_eq := by
    rw [Segments.pieces_of_of? (of?_token_sign claims a key), Base64url.toList_encode]
  header_segment := isSegment_encode (encode_text_ne_nil _)
  payload_segment := isSegment_encode (encode_text_ne_nil _)
  signature_segment := by
    refine isSegment_encode (List.ne_nil_of_length_pos ?_)
    rw [Algorithm.length_sign]
    cases a <;> decide
  header_eq := by
    refine ⟨_, Base64url.decode_encode _, ?_, (Header.ofAlgorithm a).read_object⟩
    rw [Header.text_ofAlgorithm]
  payload_eq := by
    obtain ⟨members, hread, hlookup⟩ := claims.read_object
    refine ⟨_, members, Base64url.decode_encode _, rfl, hread, ?_⟩
    rw [hlookup, Claims.lookup_issuer]
    rfl
  signature_eq := ⟨_, Base64url.decode_encode _, rfl, Algorithm.length_sign ..⟩

end Credential

namespace Issuer

/-- **The shape of a token.** An identity that can sign always gets a credential, and its token is
    three segments of base64url symbols, joined by the only dots in it: the header, which names the
    issuer's algorithm and the type `JWT`, the claims, which name an issuer exactly if the issuer
    has a name, and the signature of the two segments before it, of 32, 48 or 64 bytes. -/
theorem issue_shaped (i : Issuer) (hclient : isBlank i.identity.clientId = false)
    (hsecret : i.identity.clientSecret ≠ "") (now : Instant) (e : Entropy) :
    ∃ credential header payload signature, (i.issue now e).1 = .ok credential ∧
      credential.claims = .issue i.identity.clientId now i.name e.current ∧
      credential.Shaped i.algorithm i.identity.key header payload signature := by
  have hvalid := Identity.validate_eq_ok_iff.2 ⟨hclient, hsecret⟩
  refine ⟨i.sign now e.current, _, _, _, ?_, rfl, Credential.shaped_sign _ _ _⟩
  rw [issue_of_validate_eq_ok hvalid]

/-- An id of dots and a control character, a secret of one space, and an empty issuer name. -/
theorem issue_shaped_of_dots :
    let i : Issuer := ⟨⟨"..\x00ü", " "⟩, .hs384, some ""⟩
    isBlank i.identity.clientId = false ∧ i.identity.clientSecret ≠ "" ∧
      ∃ credential header payload signature, (i.issue .epoch (.countingFrom 7)).1 = .ok credential ∧
        credential.claims = .issue "..\x00ü" .epoch (some "") 7 ∧
        credential.Shaped .hs384 (Utf8.encode " ") header payload signature := by
  intro i
  have hclient : isBlank i.identity.clientId = false := by decide +kernel
  have hsecret : i.identity.clientSecret ≠ "" := by decide
  exact ⟨hclient, hsecret, issue_shaped i hclient hsecret .epoch (.countingFrom 7)⟩

end Issuer

end AccessDecision
